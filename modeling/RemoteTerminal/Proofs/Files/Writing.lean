import RemoteTerminal.Proofs.Files

/-!
# What an operation leaves of a tree of files

* `write_ok`, `create_ok`, `makeDirectory_ok`: an operation that succeeds puts one node, at the place
  that its path leads to.
* `Grows`: a tree that keeps every node of another also keeps where its paths lead, and what is read
  there.
* `makeDirectories_grows`, `makeDirectories_of_isDirectory`: making directories loses nothing, and
  does nothing where they are.
-/

namespace RemoteTerminal.Files

variable {files other after : Files} {working place : Place} {path : Text} {content : Bytes}

theorem readBytes_eq_ok_iff :
    files.readBytes working path = .ok content ↔
      ∃ place, files.locate working path = .ok place ∧
        files.node? place = some (.file content) := by
  unfold readBytes
  cases located : files.locate working path with
  | error fault => simp [bind, Except.bind]
  | ok place =>
    cases node : files.node? place with
    | none => simp [bind, Except.bind, node]
    | some held => cases held <;> simp [bind, Except.bind, node]

theorem readText_of_readBytes (read : files.readBytes working path = .ok content) :
    files.readText working path = textOf content := by
  rw [readText, read]
  rfl

theorem isDirectory_iff :
    files.isDirectory working path = true ↔
      ∃ place, files.locate working path = .ok place ∧
        files.node? place = some .directory := by
  unfold isDirectory
  cases files.locate working path <;> simp

/-! ## What an operation puts -/

theorem bind_ok {α β : Type} {x : Except FileFault α} {f : α → Except FileFault β} {result : β}
    (h : x >>= f = .ok result) : ∃ a, x = .ok a ∧ f a = .ok result := by
  cases x with
  | error fault => cases h
  | ok a => exact ⟨a, rfl, h⟩

theorem target_ok (found : files.target working path = .ok place) :
    files.locate working path = .ok place := by
  unfold target at found
  obtain ⟨there, located, free⟩ := bind_ok found
  have same : there = place := by
    split at free <;> simp_all
  exact same ▸ located

theorem target_of_node {node : FileNode} (located : files.locate working path = .ok place)
    (held : files.node? place = some node) : files.target working path = .ok place := by
  simp [target, located, held, bind, Except.bind]

theorem fileTarget_ok (found : files.fileTarget working path = .ok place) :
    files.locate working path = .ok place := by
  unfold fileTarget at found
  split at found
  next =>
    dsimp only at found
    split at found <;> cases found
  next => exact target_ok found

/-- A file that was written is where its path leads. -/
theorem write_ok (written : files.write working path content = .ok after) :
    ∃ place, files.locate working path = .ok place ∧ files.node? place ≠ some .directory ∧
      after = files.put place (.file content) := by
  unfold write at written
  obtain ⟨place, found, put⟩ := bind_ok written
  split at put
  next => cases put
  next free => exact ⟨place, fileTarget_ok found, free, (Except.ok.inj put).symm⟩

/-- A file that was created is where its path leads, and nothing was there before. -/
theorem create_ok (created : files.create working path content = .ok after) :
    ∃ place, files.locate working path = .ok place ∧ files.node? place = none ∧
      after = files.put place (.file content) := by
  unfold create at created
  obtain ⟨place, found, put⟩ := bind_ok created
  split at put
  next => cases put
  next free => exact ⟨place, fileTarget_ok found, free, (Except.ok.inj put).symm⟩

theorem makeDirectory_ok (made : files.makeDirectory working path = .ok after) :
    ∃ place, files.locate working path = .ok place ∧ files.node? place = none ∧
      after = files.put place .directory := by
  unfold makeDirectory at made
  obtain ⟨place, found, put⟩ := bind_ok made
  split at put
  next => cases put
  next free => exact ⟨place, target_ok found, free, (Except.ok.inj put).symm⟩

/-- Nothing is created over a file. -/
theorem create_of_readBytes {held : Bytes} (read : files.readBytes working path = .ok held) :
    files.create working path content = .error .exists := by
  obtain ⟨place, located, node⟩ := readBytes_eq_ok_iff.mp read
  simp [create, fileTarget, target_of_node located node, node, bind, Except.bind]

theorem makeDirectory_of_isDirectory (there : files.isDirectory working path = true) :
    files.makeDirectory working path = .error .exists := by
  obtain ⟨place, located, node⟩ := isDirectory_iff.mp there
  simp [makeDirectory, target_of_node located node, node, bind, Except.bind]

theorem locate_put_file (free : files.node? place ≠ some .directory)
    (located : files.locate working path = .ok place) :
    (files.put place (.file content)).locate working path = .ok place :=
  (alike_put content free).locate located

/-- What was put where a path leads is read there. -/
theorem readBytes_put_file (free : files.node? place ≠ some .directory)
    (located : files.locate working path = .ok place) :
    (files.put place (.file content)).readBytes working path = .ok content := by
  have below : place ≠ [] := by
    rintro rfl
    exact free rfl
  exact readBytes_eq_ok_iff.mpr ⟨place, locate_put_file free located, node?_put_self below⟩

/-! ## Trees that grow -/

/-- A tree that keeps every node of another. -/
def Grows (files other : Files) : Prop :=
  ∀ place node, files.node? place = some node → other.node? place = some node

theorem Grows.refl (files : Files) : files.Grows files := fun _ _ held => held

theorem Grows.trans {last : Files} (first : files.Grows other) (next : other.Grows last) :
    files.Grows last :=
  fun place node held => next place node (first place node held)

theorem Grows.locate (grows : files.Grows other) (located : files.locate working path = .ok place) :
    other.locate working path = .ok place :=
  locate_of_directories (fun here => grows here .directory) located

theorem Grows.readBytes (grows : files.Grows other)
    (read : files.readBytes working path = .ok content) :
    other.readBytes working path = .ok content := by
  obtain ⟨place, located, node⟩ := readBytes_eq_ok_iff.mp read
  exact readBytes_eq_ok_iff.mpr ⟨place, grows.locate located, grows place _ node⟩

theorem Grows.isDirectory (grows : files.Grows other)
    (there : files.isDirectory working path = true) : other.isDirectory working path = true := by
  obtain ⟨place, located, node⟩ := isDirectory_iff.mp there
  exact isDirectory_iff.mpr ⟨place, grows.locate located, grows place _ node⟩

theorem grows_put {node : FileNode} (free : files.node? place = none) :
    files.Grows (files.put place node) := by
  intro other held there
  have apart : other ≠ place := by
    rintro rfl
    rw [free] at there
    cases there
  rw [node?_put apart]
  exact there

theorem create_grows (created : files.create working path content = .ok after) :
    files.Grows after ∧ after.readBytes working path = .ok content := by
  obtain ⟨place, located, free, rfl⟩ := create_ok created
  exact ⟨grows_put free, readBytes_put_file (by simp [free]) located⟩

theorem makeDirectory_grows (made : files.makeDirectory working path = .ok after) :
    files.Grows after ∧ after.isDirectory working path = true := by
  obtain ⟨place, located, free, rfl⟩ := makeDirectory_ok made
  have grows : files.Grows (files.put place .directory) := grows_put free
  have below : place ≠ [] := by
    rintro rfl
    cases free
  exact ⟨grows, isDirectory_iff.mpr ⟨place, grows.locate located, node?_put_self below⟩⟩

/-! ## Making directories -/

/-- A directory that is to be there is there afterwards, or there is a fault. -/
theorem ensureDirectory_grows (files : Files) (working : Place) (path : Text) :
    files.Grows (files.ensureDirectory working path).2 ∧
      ((files.ensureDirectory working path).1 = none →
        (files.ensureDirectory working path).2.isDirectory working path = true) := by
  unfold ensureDirectory
  cases made : files.makeDirectory working path with
  | ok after => exact ⟨(makeDirectory_grows made).1, fun _ => (makeDirectory_grows made).2⟩
  | error fault =>
    refine ⟨.refl files, fun unfaulted => ?_⟩
    by_contra missing
    simp [missing] at unfaulted

theorem ensureDirectory_of_isDirectory (there : files.isDirectory working path = true) :
    files.ensureDirectory working path = (none, files) := by
  simp [ensureDirectory, makeDirectory_of_isDirectory there, there]

/-- What a list of parts names is a directory, if there is a part. -/
def Standing (files : Files) (working : Place) (rooted : Bool) (parts : List Text) : Prop :=
  parts ≠ [] → files.isDirectory working (pathOf rooted parts) = true

/-- Making directories loses nothing, also where it fails. -/
theorem makeDirectories_grows (files : Files) (working : Place) (rooted : Bool)
    (parts : List Text) :
    files.Grows (files.makeDirectories working rooted parts).2 ∧
      ((files.makeDirectories working rooted parts).1 = none →
        (files.makeDirectories working rooted parts).2.Standing working rooted parts) := by
  induction parts with
  | nil => exact ⟨.refl files, fun _ none_left => absurd rfl none_left⟩
  | cons part parents ih =>
    have ensured (files : Files) :=
      ensureDirectory_grows files working (pathOf rooted (part :: parents))
    unfold makeDirectories
    dsimp only
    split
    next =>
      generalize files.makeDirectories working rooted parents = above at ih
      obtain ⟨_ | fault, made⟩ := above
      · exact ⟨ih.1.trans (ensured made).1, fun unfaulted _ => (ensured made).2 unfaulted⟩
      · exact ⟨ih.1, nofun⟩
    next => exact ⟨(ensured files).1, fun unfaulted _ => (ensured files).2 unfaulted⟩

/-- Directories that are there are left as they are. -/
theorem makeDirectories_of_standing {rooted : Bool} {parts : List Text}
    (standing : files.Standing working rooted parts) :
    files.makeDirectories working rooted parts = (none, files) := by
  cases parts with
  | nil => rfl
  | cons part parents =>
    have there := standing (List.cons_ne_nil part parents)
    simp [makeDirectories, makeDirectory_of_isDirectory there, ensureDirectory_of_isDirectory there]

end RemoteTerminal.Files
