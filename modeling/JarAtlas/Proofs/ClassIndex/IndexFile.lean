import JarAtlas.ClassIndex.Lookup
import JarAtlas.Proofs.Files.Directories

/-!
# The index file of a project

Where the index of a project is, and what reading it comes to: the path is plain, so asking for it
and reading it by its text lead to the same file, and what a reading answers is told by the content
of that file.
-/

namespace JarAtlas.ClassIndex

open Action Text

theorem isPlain_pathOf (project : Text) : (pathOf project).IsPlain :=
  (Path.isPlain_ofText project).join fileName

theorem segments_pathOf (project : Text) :
    (pathOf project).segments = Path.segmentsOf project ++ [fileName] := rfl

theorem pathOf_eq (project : Text) :
    pathOf project = ⟨(Path.ofText project).root, (Path.ofText project).segments ++ [fileName]⟩ := rfl

theorem parent_pathOf (project : Text) : (pathOf project).parent = .ofText project := by
  simp [pathOf_eq, Path.parent]

theorem hasNull_pathOf (project : Text) :
    Files.hasNull (pathOf project).text = Files.hasNull (Path.ofText project).text := by
  have noNull : Files.hasNull fileName = false := by decide
  rw [Files.hasNull_text, Files.hasNull_text, pathOf_eq]
  simp [noNull]

/-- The project of an index that is there is a directory. -/
theorem lookup_project_of_locate {files : FileTree} {directory place : Place} {project : Text}
    (located : files.locate directory (pathOf project) = .ok place) :
    files.lookup directory (.ofText project) = .ok .directory := by
  rw [pathOf_eq] at located
  exact FileTree.lookup_of_locate_append (List.cons_ne_nil _ _) located

/-- Projects whose index paths have the same text have the same index. -/
theorem pathOf_eq_of_text_eq {project other : Text}
    (same : (pathOf project).text = (pathOf other).text) : pathOf project = pathOf other :=
  (isPlain_pathOf project).eq_of_text_eq (isPlain_pathOf other) same

/-- Reading the index by the text of its path leads to where asking for it leads. -/
theorem lookupWritten_pathOf (files : FileTree) (workingDirectory : Place) (project : Text) :
    files.lookupWritten workingDirectory (pathOf project).text =
      files.lookup workingDirectory (pathOf project) :=
  (isPlain_pathOf project).lookupWritten_text (by simp [segments_pathOf]) files workingDirectory

/-- The value that an index file stands for, once it is read. -/
def valueOf (path : Path) : Except Error Content → Except Error Json
  | .error error => .error (.unreadableIndex path.text error.message)
  | .ok (.archive _) => .error (.unreadableIndex path.text "not a text")
  | .ok (.text source) =>
    match Json.read source with
    | .ok value => .ok value
    | .error .malformed => .error (.unreadableIndex path.text "not a JSON value")
    | .error .listTooDeep => .error (.nestedTooDeep "array")
    | .error .objectTooDeep => .error (.nestedTooDeep "object")

section

variable {setting : Setting} {session : Session}

theorem run_read (path : Path) : read path setting session =
    (valueOf path (Files.contentAt session.files setting.host.workingDirectory path.text),
      session) := by
  unfold read
  rw [run_bind, run_attempt, Files.run_read]
  cases Files.contentAt session.files setting.host.workingDirectory path.text with
  | error error => rfl
  | ok content =>
    cases content with
    | archive entries => rfl
    | text source =>
      dsimp only [valueOf]
      cases Json.read source with
      | ok value => rfl
      | error fault => cases fault <;> rfl

theorem run_readTable (path : Path) : readTable path setting session =
    ((valueOf path (Files.contentAt session.files setting.host.workingDirectory path.text)).bind
      tableIn, session) := by
  unfold readTable
  rw [run_bind, run_read]
  cases valueOf path (Files.contentAt session.files setting.host.workingDirectory path.text) with
  | error error => rfl
  | ok value => exact run_ofExcept _ _ _

end

/-- What reading an index answers is told by what its file holds. -/
theorem contentAt_pathOf {files : FileTree} {workingDirectory : Place} {project : Text}
    {content : Content} {stamp : Int}
    (found : files.lookup workingDirectory (pathOf project) = .ok (.file content stamp)) :
    Files.contentAt files workingDirectory (pathOf project).text =
      if Files.hasNull (pathOf project).text then .error .nullInPath else .ok content := by
  unfold Files.contentAt
  rw [lookupWritten_pathOf, found]

end JarAtlas.ClassIndex
