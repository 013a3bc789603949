import PrismaEsdl.Files.Writing
import PrismaEsdl.Proofs.Table

/-!
What an attempt to write leaves of the files.

Only the regular files count here: a directory that was made before a failure stays, but making
directories touches no file (`file?_ensureDirectory`). A text that is not written leaves every file
as it was (`file?_of_not_empties`), with one exception: where the output could be opened and the
text has no bytes, the file that was opened is left empty (`file?_of_empties`).
-/

namespace PrismaEsdl

/-- A text has no bytes exactly where a surrogate stands alone in it. -/
theorem Text.Utf8.encode?_eq_none_iff {t : Text} :
    encode? t = none ↔ ∃ offset, CodePoint.surrogate offset ∈ t := by
  induction t with
  | nil => simp [encode?]
  | cons p rest ih =>
      cases p with
      | char c => simp [encode?, ih]
      | surrogate offset => simp [encode?]

namespace Files.Tree

/-- The content of the file in a place, if there is one. -/
def file? (tree : Tree) (place : Place) : Option (List UInt8) :=
  match tree.get? place with
  | some (.file content) => some content
  | some .directory | none => none

variable {tree made : Tree} {path : Path} {place : Place}

theorem get?_put (entry : Entry) (other : Place) :
    (tree.put place entry).get? other =
      if place = other ∧ ¬ other.isPrefixOf tree.workingDirectory then some entry
      else tree.get? other := by
  by_cases above : other.isPrefixOf tree.workingDirectory = true
  · simp [get?, put, above]
  · by_cases same : place = other <;> simp [get?, put, above, Table.get?_insert, same]

/-- A directory that is made where nothing was touches no file. -/
theorem file?_put_directory (vacant : tree.get? place = none) :
    (tree.put place .directory).file? = tree.file? := by
  funext other
  unfold file?
  rw [get?_put]
  by_cases here : place = other ∧ ¬ other.isPrefixOf tree.workingDirectory
  · rw [if_pos here, ← here.1, vacant]
  · rw [if_neg here]

/-- A file that is stored where no directory is touches no other one. -/
theorem file?_put_file (content : List UInt8) (storable : tree.get? place ≠ some .directory)
    (other : Place) :
    (tree.put place (.file content)).file? other =
      if place = other then some content else tree.file? other := by
  have below : ¬ place.isPrefixOf tree.workingDirectory = true := by
    intro above
    exact storable (if_pos above)
  unfold file?
  rw [get?_put]
  by_cases same : place = other
  · subst same
    simp [below]
  · simp [same]

/-! ### Directories -/

theorem file?_of_makeDirectory (success : tree.makeDirectory path = .ok made) :
    made.file? = tree.file? := by
  unfold makeDirectory at success
  cases located : tree.locate path with
  | error refusal =>
      rw [located] at success
      cases success
  | ok place =>
      simp only [located, bind, Except.bind] at success
      split at success
      · cases success
      · rename_i vacant
        cases success
        exact file?_put_directory vacant

theorem file?_of_ensureOne (success : tree.ensureOne path = .ok made) :
    made.file? = tree.file? := by
  unfold ensureOne at success
  split at success
  · rename_i made' created
    cases success
    exact file?_of_makeDirectory created
  · split at success
    · cases success
      rfl
    · cases success

/-- The last step of making a directory and those above it. -/
theorem file?_ensureOne_or_refuse (tree : Tree) (path : Path) :
    (match tree.ensureOne path with
      | .ok made => (none, made)
      | .error refusal => (some (WritingError.refused refusal path), tree)).2.file?
        = tree.file? := by
  split
  · rename_i made success
    exact file?_of_ensureOne success
  · rfl

theorem file?_ensureNames (anchor : Anchor) (reversed : List Text) (tree : Tree) :
    (ensureNames anchor reversed tree).2.file? = tree.file? := by
  -- The names stand in reverse order, so the induction goes from the top down.
  induction reversed generalizing tree with
  | nil => exact file?_ensureOne_or_refuse tree ⟨anchor, []⟩
  | cons name above ih =>
      have kept := ih tree
      simp only [ensureNames]
      split
      · cases made : ensureNames anchor above tree with
        | mk error after =>
            rw [made] at kept
            cases error with
            | some error => exact kept
            | none => exact (file?_ensureOne_or_refuse after _).trans kept
      · exact file?_ensureOne_or_refuse tree _

/-- Making directories touches no file. -/
theorem file?_ensureDirectory (tree : Tree) (path : Path) :
    (tree.ensureDirectory path).2.file? = tree.file? := by
  unfold ensureDirectory
  split
  · exact file?_ensureNames _ _ _
  · rfl

/-! ### Files -/

theorem get?_of_openFile (opened : tree.openFile path = .ok place) :
    tree.get? place ≠ some .directory := by
  unfold openFile at opened
  split at opened
  · cases opened
  · split at opened
    · cases opened
    · rename_i found located
      cases stored : tree.get? found with
      | none =>
          rw [stored] at opened
          cases opened
          simp [stored]
      | some entry =>
          rw [stored] at opened
          cases entry with
          | directory => cases opened
          | file content =>
              cases opened
              simp [stored]

/-- Whether an attempt to write to a path gets as far as opening a place: the directories above the
path are there or can be made, which gives a tree, and the path leads to the place in it. -/
def Opens (tree : Tree) (path : Path) (made : Tree) (place : Place) : Prop :=
  tree.ensureDirectory path.parent = (none, made) ∧ made.openFile path = .ok place

/-- What is opened for writing was no directory, and until then no file was touched. -/
theorem Opens.file?_put (opened : tree.Opens path made place) (content : List UInt8)
    (other : Place) :
    (made.put place (.file content)).file? other =
      if place = other then some content else tree.file? other := by
  have kept := file?_ensureDirectory tree path.parent
  rw [opened.1] at kept
  rw [file?_put_file content (get?_of_openFile opened.2), kept]

/-- A text without bytes that gets as far as an open file leaves that file empty. -/
theorem write_eq_of_surrogate {t : Text} (opened : tree.Opens path made place)
    (surrogate : ∃ offset, CodePoint.surrogate offset ∈ t) :
    tree.write path t = (some .unencodable, made.put place (.file [])) := by
  simp only [write, opened.1, opened.2, Text.Utf8.encode?_eq_none_iff.mpr surrogate]

/-- Any other attempt that fails has opened nothing, and touches no file. -/
theorem file?_of_write_of_not_surrogate {t : Text} {error : WritingError} {after : Tree}
    (failed : tree.write path t = (some error, after))
    (spared : ∀ made place, tree.Opens path made place → ¬ ∃ offset, .surrogate offset ∈ t) :
    after.file? = tree.file? := by
  have kept := file?_ensureDirectory tree path.parent
  unfold write at failed
  cases prepared : tree.ensureDirectory path.parent with
  | mk refused made =>
      rw [prepared] at failed kept
      cases refused with
      | some refused =>
          cases failed
          exact kept
      | none =>
          cases opened : made.openFile path with
          | error refused =>
              simp only [opened] at failed
              cases failed
              exact kept
          | ok place =>
              -- The place is open, so the text has bytes and is written.
              cases encoded : Text.Utf8.encode? t with
              | some content => simp [opened, encoded] at failed
              | none =>
                  exact absurd (Text.Utf8.encode?_eq_none_iff.mp encoded)
                    (spared made place ⟨prepared, opened⟩)

/-- Whether an attempt to write a text empties the file in a place: the place is opened for it, and
a surrogate stands alone in the text. -/
def Empties (tree : Tree) (path : Path) (t : Text) (place : Place) : Prop :=
  (∃ made, tree.Opens path made place) ∧ ∃ offset, CodePoint.surrogate offset ∈ t

/-- The file that an attempt empties is empty afterwards, and this is the failure it ends with. -/
theorem file?_of_empties {t : Text} {error : WritingError} {after : Tree}
    (failed : tree.write path t = (some error, after)) (emptied : tree.Empties path t place) :
    error = .unencodable ∧ after.file? place = some [] := by
  obtain ⟨⟨made, opened⟩, surrogate⟩ := emptied
  rw [write_eq_of_surrogate opened surrogate] at failed
  cases failed
  exact ⟨rfl, by simp [opened.file?_put]⟩

/-- A failed attempt leaves all files as they were that it does not empty. -/
theorem file?_of_not_empties {t : Text} {error : WritingError} {after : Tree}
    (failed : tree.write path t = (some error, after)) (spared : ¬ tree.Empties path t place) :
    after.file? place = tree.file? place := by
  by_cases emptied : ∃ target, tree.Empties path t target
  · obtain ⟨target, ⟨made, opened⟩, surrogate⟩ := emptied
    have other : target ≠ place := by
      rintro rfl
      exact spared ⟨⟨made, opened⟩, surrogate⟩
    rw [write_eq_of_surrogate opened surrogate] at failed
    cases failed
    rw [opened.file?_put, if_neg other]
  · refine congrFun (file?_of_write_of_not_surrogate failed ?_) place
    intro made target opened surrogate
    exact emptied ⟨target, ⟨made, opened⟩, surrogate⟩

end Files.Tree

end PrismaEsdl
