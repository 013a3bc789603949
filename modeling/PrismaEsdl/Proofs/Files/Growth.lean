import PrismaEsdl.Proofs.Files.Writing

/-!
What a text that is written leaves of the tree.

On the way to a path a tree grows by directories only, all of them above the path, and keeps what
was stored (`Grows`); a path that led somewhere leads there still (`Grows.locate`). So a text that
is written makes or changes the one file that its path leads to, and every new directory is above it
(`leaves_of_write`).
-/

namespace PrismaEsdl.Files

/-- A path above another one, or the directory that it is in. -/
def Path.IsAbove (above path : Path) : Prop :=
  above.anchor = path.anchor ∧ above.names <+: path.parent.names

namespace Tree

variable {tree made after : Tree} {path above : Path} {place : Place}

/-! ### Places of a path -/

theorem get?_of_step {name : Text} {next : Place} (success : tree.step place name = .ok next) :
    tree.get? place = some .directory := by
  unfold step at success
  cases stored : tree.get? place with
  | none => simp [stored] at success
  | some entry =>
      cases entry with
      | directory => rfl
      | file content => simp [stored] at success

section

variable (kept : ∀ place, tree.get? place = some .directory → made.get? place = some .directory)

include kept

/-- Names lead to the same place wherever the directories before them are kept. -/
theorem foldlM_step_of_kept {names : List Text} :
    ∀ {place target : Place}, names.foldlM tree.step place = .ok target →
      names.foldlM made.step place = .ok target := by
  induction names with
  | nil => exact fun reached => reached
  | cons name rest ih =>
      intro place target reached
      rw [List.foldlM_cons] at reached ⊢
      cases stepped : tree.step place name with
      | error refusal =>
          rw [stepped] at reached
          cases reached
      | ok next =>
          have stored := get?_of_step stepped
          have same : made.step place name = tree.step place name := by
            unfold step
            rw [stored, kept place stored]
          rw [stepped] at reached
          rw [same, stepped]
          exact ih reached

/-- A path leads to the same place in a tree that keeps the directories. -/
theorem locate_of_kept (start : made.workingDirectory = tree.workingDirectory)
    (located : tree.locate path = .ok place) : made.locate path = .ok place := by
  have beginning : made.start path = tree.start path := by
    unfold Tree.start
    rw [start]
  unfold locate at located ⊢
  split at located
  · cases located
  · rename_i allowed
    rw [if_neg allowed, beginning]
    exact foldlM_step_of_kept kept located

end

/-! ### Directories on the way to a path -/

/-- A tree that grows on the way to a path: it keeps what it holds, and what is added are
directories above the path. -/
structure Grows (path : Path) (tree made : Tree) : Prop where
  start : made.workingDirectory = tree.workingDirectory
  kept : ∀ place entry, tree.get? place = some entry → made.get? place = some entry
  added : ∀ place entry, made.get? place = some entry →
    tree.get? place = some entry ∨
      entry = .directory ∧ ∃ above : Path, above.IsAbove path ∧ made.locate above = .ok place

namespace Grows

theorem refl (path : Path) (tree : Tree) : Grows path tree tree :=
  ⟨rfl, fun _ _ stored => stored, fun _ _ stored => .inl stored⟩

theorem locate (grows : Grows path tree made) {other : Path} {place : Place}
    (located : tree.locate other = .ok place) : made.locate other = .ok place :=
  locate_of_kept (fun place => grows.kept place .directory) grows.start located

theorem trans (first : Grows path tree made) (second : Grows path made after) :
    Grows path tree after := by
  refine ⟨second.start.trans first.start, ?_, ?_⟩
  · exact fun place entry stored => second.kept place entry (first.kept place entry stored)
  · intro place entry stored
    rcases second.added place entry stored with earlier | new
    · rcases first.added place entry earlier with there | ⟨isDirectory, above, isAbove, located⟩
      · exact .inl there
      · exact .inr ⟨isDirectory, above, isAbove, second.locate located⟩
    · exact .inr new

theorem of_makeDirectory (isAbove : above.IsAbove path)
    (success : tree.makeDirectory above = .ok made) : Grows path tree made := by
  unfold makeDirectory at success
  cases located : tree.locate above with
  | error refusal =>
      rw [located] at success
      cases success
  | ok place =>
      simp only [located, bind, Except.bind] at success
      split at success
      · cases success
      · rename_i vacant
        cases success
        have kept : ∀ other entry, tree.get? other = some entry →
            (tree.put place .directory).get? other = some entry := by
          intro other entry stored
          rw [get?_put, if_neg ?_]
          · exact stored
          · rintro ⟨rfl, _⟩
            rw [vacant] at stored
            cases stored
        refine ⟨rfl, kept, ?_⟩
        intro other entry stored
        rw [get?_put] at stored
        split at stored
        · rename_i here
          cases stored
          have located' : (tree.put place .directory).locate above = .ok place :=
            locate_of_kept (fun other => kept other .directory) rfl located
          exact .inr ⟨rfl, above, isAbove, here.1 ▸ located'⟩
        · exact .inl stored

theorem of_ensureOne (isAbove : above.IsAbove path) (success : tree.ensureOne above = .ok made) :
    Grows path tree made := by
  unfold ensureOne at success
  split at success
  · rename_i made' created
    cases success
    exact of_makeDirectory isAbove created
  · split at success
    · cases success
      exact refl path tree
    · cases success

/-- The last step of making a directory and those above it. -/
theorem ensureOne_or_refuse (isAbove : above.IsAbove path) (tree : Tree) :
    Grows path tree (match tree.ensureOne above with
      | .ok made => (none, made)
      | .error refusal => (some (WritingError.refused refusal above), tree)).2 := by
  split
  · rename_i made success
    exact of_ensureOne isAbove success
  · exact refl path tree

theorem ensureNames {reversed : List Text} :
    ∀ tree, reversed.reverse <+: path.parent.names →
      Grows path tree (Tree.ensureNames path.anchor reversed tree).2 := by
  -- The names stand in reverse order, so the induction goes from the top down.
  induction reversed with
  | nil =>
      intro tree inside
      have isAbove : Path.IsAbove ⟨path.anchor, []⟩ path := ⟨rfl, inside⟩
      exact ensureOne_or_refuse isAbove tree
  | cons name above ih =>
      intro tree inside
      have isAbove : Path.IsAbove ⟨path.anchor, (name :: above).reverse⟩ path := ⟨rfl, inside⟩
      have grows := ih tree (.trans (by simp) inside)
      simp only [Tree.ensureNames]
      split
      · cases made : Tree.ensureNames path.anchor above tree with
        | mk error after =>
            rw [made] at grows
            cases error with
            | some error => exact grows
            | none => exact grows.trans (ensureOne_or_refuse isAbove after)
      · exact ensureOne_or_refuse isAbove tree

/-- Making the directories above a path adds nothing else. -/
theorem ensureDirectory (path : Path) (tree : Tree) :
    Grows path tree (tree.ensureDirectory path.parent).2 := by
  unfold Tree.ensureDirectory
  split
  · exact ensureNames tree (by simp)
  · exact refl path tree

end Grows

/-! ### A text that is written -/

/-- What is left of a tree in which a content was written to a path: the path leads to a file with
the content, all other files and all directories are as they were, and what is new beside them are
directories above the path. -/
structure Leaves (path : Path) (content : List UInt8) (tree after : Tree) : Prop where
  written : ∃ place, after.locate path = .ok place ∧ after.file? place = some content ∧
    ∀ other, other ≠ place → after.file? other = tree.file? other
  kept : ∀ place, tree.get? place = some .directory → after.get? place = some .directory
  added : ∀ place, after.get? place = some .directory →
    tree.get? place = some .directory ∨
      ∃ above : Path, above.IsAbove path ∧ after.locate above = .ok place

theorem locate_of_openFile (opened : tree.openFile path = .ok place) :
    tree.locate path = .ok place := by
  unfold openFile at opened
  split at opened
  · cases opened
  · split at opened
    · cases opened
    · rename_i found located
      rw [located]
      split at opened
      · cases opened
      · cases opened
        rfl
      · cases opened
        rfl

/-- A text is written exactly if its place can be opened and it has bytes. -/
theorem write_eq_ok_iff {t : Text} :
    tree.write path t = (none, after) ↔
      ∃ made place content, tree.Opens path made place ∧ Text.Utf8.encode? t = some content ∧
        after = made.put place (.file content) := by
  unfold write Opens
  cases prepared : tree.ensureDirectory path.parent with
  | mk refused made =>
      cases refused with
      | some refused => simp
      | none =>
          cases opened : made.openFile path with
          | error refused =>
              constructor
              · simp [opened]
              · rintro ⟨_, _, _, ⟨same, opened'⟩, _⟩
                cases same
                rw [opened] at opened'
                cases opened'
          | ok place =>
              cases encoded : Text.Utf8.encode? t with
              | none => simp [opened]
              | some content =>
                  simp only [opened, Prod.mk.injEq, true_and, Option.some.injEq]
                  constructor
                  · rintro rfl
                    exact ⟨made, place, content, ⟨rfl, opened⟩, rfl, rfl⟩
                  · rintro ⟨_, _, _, ⟨rfl, opened'⟩, rfl, rfl⟩
                    rw [opened] at opened'
                    cases opened'
                    rfl

/-- What a text that is written leaves of the tree. -/
theorem leaves_of_write {t : Text} (success : tree.write path t = (none, after)) :
    ∃ content, Text.Utf8.encode? t = some content ∧ Leaves path content tree after := by
  obtain ⟨made, place, content, opened, encoded, rfl⟩ := write_eq_ok_iff.mp success
  have grows : Grows path tree made := by
    have grows := Grows.ensureDirectory path tree
    rw [opened.1] at grows
    exact grows
  have storable := get?_of_openFile opened.2
  have spared : ∀ other, made.get? other = some .directory →
      (made.put place (.file content)).get? other = some .directory := by
    intro other stored
    rw [get?_put, if_neg ?_]
    · exact stored
    · rintro ⟨rfl, _⟩
      exact storable stored
  refine ⟨content, encoded, ⟨place, ?_, ?_, ?_⟩, ?_, ?_⟩
  · exact locate_of_kept spared rfl (locate_of_openFile opened.2)
  · rw [opened.file?_put, if_pos rfl]
  · intro other different
    rw [opened.file?_put, if_neg (Ne.symm different)]
  · exact fun other stored => spared other (grows.kept other .directory stored)
  · intro other stored
    rw [get?_put] at stored
    split at stored
    · cases stored
    · rcases grows.added other _ stored with there | ⟨_, above, isAbove, located⟩
      · exact .inl there
      · exact .inr ⟨above, isAbove, locate_of_kept spared rfl located⟩

end Tree

end PrismaEsdl.Files
