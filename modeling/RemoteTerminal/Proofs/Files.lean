import RemoteTerminal.Files
import Mathlib.Data.List.Basic

/-!
# What a tree of files holds

* `readText_eq_ok_iff`: a text is read where a path leads to a file that `Holds` it.
* `node?_put`: putting a node changes what is at its place.
* `locate_of_directories`: where a path leads depends only on the directories of a tree.
* `Alike.holds_iff`: trees that differ elsewhere hold the same text at a path.
-/

namespace RemoteTerminal.Files

/-- Trees with the same directories, and the same files at every place that is not `among` those
that may differ: there, a file may be missing or hold anything. -/
structure Alike (files : Files) (among : Place → Prop) (other : Files) : Prop where
  directories : ∀ place, files.node? place = some .directory ↔ other.node? place = some .directory
  elsewhere : ∀ place, ¬ among place → files.node? place = other.node? place

theorem Alike.symm {among : Place → Prop} {files other : Files} (alike : files.Alike among other) :
    other.Alike among files where
  directories place := (alike.directories place).symm
  elsewhere place apart := (alike.elsewhere place apart).symm

/-- Only directories decide where a path leads. -/
theorem follow_of_directories {files other : Files}
    (kept : ∀ place, files.node? place = some .directory → other.node? place = some .directory)
    {here place : Place} {parts : List Text} (led : files.follow here parts = .ok place) :
    other.follow here parts = .ok place := by
  induction parts generalizing here with
  | nil => exact led
  | cons part parts ih =>
    unfold Files.follow at led ⊢
    cases node : files.node? here with
    | none => simp [node] at led
    | some held =>
      cases held with
      | file => simp [node] at led
      | directory =>
        rw [kept here node]
        simp only [node] at led ⊢
        split at led
        next still =>
          rw [if_pos still]
          exact ih led
        next moved =>
          rw [if_neg moved]
          split at led
          next up =>
            rw [if_pos up]
            exact ih led
          next down =>
            rw [if_neg down]
            split at led
            next => cases led
            next short =>
              rw [if_neg short]
              exact ih led

theorem locate_of_directories {files other : Files}
    (kept : ∀ place, files.node? place = some .directory → other.node? place = some .directory)
    {working place : Place} {path : Text} (located : files.locate working path = .ok place) :
    other.locate working path = .ok place := by
  unfold Files.locate at located ⊢
  split at located
  next => cases located
  next whole =>
    rw [if_neg whole]
    split at located
    next => cases located
    next named =>
      rw [if_neg named]
      exact follow_of_directories kept located

theorem Alike.locate {among : Place → Prop} {files other : Files}
    (alike : files.Alike among other) {working place : Place} {path : Text}
    (located : files.locate working path = .ok place) : other.locate working path = .ok place :=
  locate_of_directories (fun here => (alike.directories here).mp) located

/-- A path leads to a file that holds a text. -/
def Holds (files : Files) (working : Place) (path document : Text) : Prop :=
  ∃ place content, files.locate working path = .ok place ∧
    files.node? place = some (.file content) ∧ Bytes.decode content = .ok document

theorem readText_eq_ok_iff {files : Files} {working : Place} {path document : Text} :
    files.readText working path = .ok document ↔ files.Holds working path document := by
  unfold readText readBytes Holds
  cases located : files.locate working path with
  | error fault => simp [bind, Except.bind]
  | ok place =>
    cases node : files.node? place with
    | none => simp [bind, Except.bind, node]
    | some held =>
      cases held with
      | directory => simp [bind, Except.bind, node]
      | file content =>
        cases decoded : Bytes.decode content <;>
          simp [bind, Except.bind, node, textOf, decoded, Except.mapError]

/-- What a path leads to is held alike, if it is not among the files that may differ. -/
theorem Alike.holds_iff {among : Place → Prop} {files other : Files}
    (alike : files.Alike among other) {working : Place} {path : Text}
    (apart : ∀ place, files.locate working path = .ok place → ¬ among place) (document : Text) :
    files.Holds working path document ↔ other.Holds working path document := by
  constructor
  · rintro ⟨place, content, located, node, decoded⟩
    rw [alike.elsewhere place (apart place located)] at node
    exact ⟨place, content, alike.locate located, node, decoded⟩
  · rintro ⟨place, content, located, node, decoded⟩
    have back := alike.symm.locate located
    rw [← alike.elsewhere place (apart place back)] at node
    exact ⟨place, content, back, node, decoded⟩

theorem lookup_filter_ne {nodes : List (Place × FileNode)} {place other : Place}
    (ne : other ≠ place) :
    (nodes.filter fun p => p.1 ≠ place).lookup other = nodes.lookup other := by
  induction nodes with
  | nil => rfl
  | cons node nodes ih =>
    obtain ⟨key, held⟩ := node
    by_cases same : key = place
    · subst same
      have apart : (other == key) = false := by simpa using ne
      simpa [List.lookup_cons, apart] using ih
    · rw [List.filter_cons_of_pos (by simpa using same), List.lookup_cons, List.lookup_cons]
      split
      next => rfl
      next => exact ih

theorem node?_put {files : Files} {place other : Place} {node : FileNode} (ne : other ≠ place) :
    (files.put place node).node? other = files.node? other := by
  have apart : (other == place) = false := by simpa using ne
  simp only [node?, put, List.lookup_cons, apart]
  rw [lookup_filter_ne ne]

theorem node?_put_self {files : Files} {place : Place} {node : FileNode} (below : place ≠ []) :
    (files.put place node).node? place = some node := by
  simp [node?, put, below]

/-- A file that is put where no directory is makes no difference elsewhere. -/
theorem alike_put {files : Files} {place : Place} (content : Bytes)
    (free : files.node? place ≠ some .directory) :
    files.Alike (· = place) (files.put place (.file content)) where
  directories other := by
    by_cases same : other = place
    · subst same
      have below : other ≠ [] := by
        rintro rfl
        exact free rfl
      rw [node?_put_self below]
      simp [free]
    · rw [node?_put same]
  elsewhere other ne := (node?_put ne).symm

end RemoteTerminal.Files
