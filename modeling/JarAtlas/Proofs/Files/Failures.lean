import JarAtlas.Proofs.Files.Operations
import JarAtlas.Proofs.Session.Failures

/-!
# How file operations fail

Asking for a path fails only if the path is too long. Changing what it leads to fails with a fault of
the path itself or of one above it, or because there is a null character in one of these.
-/

namespace JarAtlas

open Action

/-- The path is too long, or one of its names is. -/
def Path.IsTooLong (path : Path) : Prop :=
  FileTree.pathLimit < Text.byteCount path.text ∨
    ∃ segment ∈ path.segments, FileTree.nameLimit < Text.byteCount segment

theorem FileTree.isTooLong_of_lookup {tree : FileTree} {workingDirectory : Place} {path : Path}
    (nowhere : tree.lookup workingDirectory path = .error .nameTooLong) : path.IsTooLong := by
  unfold lookup at nowhere
  split at nowhere
  · rename_i located
    cases nowhere
    unfold locate at located
    split_ifs at located with long
    · exact .inl long
    all_goals exact .inr (exists_long_of_walk located)
  · split at nowhere
    all_goals cases nowhere

/-- The kind has the errors that are part of the service, and those of paths that are too long. -/
structure CoversCommon (kind : Error → Prop) : Prop where
  reported : ∀ error, error.isReported = true → kind error
  long : ∀ path : Path, path.IsTooLong → kind (.file .nameTooLong path.text)

namespace Files

variable {setting : Setting} {kind : Error → Prop}

/-! ### Asking -/

/-- A path that cannot be asked for is too long. -/
theorem isTooLong_of_foundAt {files : FileTree} {workingDirectory : Place} {path : Path}
    {error : Error} (refused : foundAt files workingDirectory path = .error error) :
    path.IsTooLong ∧ error = .file .nameTooLong path.text := by
  have isLong := (eq_of_foundAt_error refused).2
  refine ⟨?_, isLong⟩
  rw [isLong] at refused
  unfold foundAt at refused
  split at refused
  · contradiction
  · rename_i nowhere
    split_ifs at refused
    cases refused
    exact FileTree.isTooLong_of_lookup nowhere

theorem fails_find? {path : Path} (long : path.IsTooLong → kind (.file .nameTooLong path.text)) :
    Fails setting kind (find? path) := by
  constructor
  intro session _ error failed
  rw [run_find?] at failed
  rcases isTooLong_of_foundAt failed with ⟨isLong, rfl⟩
  exact long isLong

theorem fails_doesExist {path : Path}
    (long : path.IsTooLong → kind (.file .nameTooLong path.text)) :
    Fails setting kind (doesExist path) :=
  (fails_find? long).andThen fun _ => .pure _

theorem fails_isDirectory {path : Path}
    (long : path.IsTooLong → kind (.file .nameTooLong path.text)) :
    Fails setting kind (isDirectory path) :=
  (fails_find? long).andThen fun _ => .pure _

/-- Reading fails because of the file, or because of a null character in its path. -/
theorem fails_read {written : Text} (fault : ∀ fault, kind (.file fault written))
    (null : hasNull written = true → kind .nullInPath) : Fails setting kind (read written) := by
  constructor
  intro session _ error failed
  rw [run_read] at failed
  unfold contentAt at failed
  split_ifs at failed with isNull
  · cases failed
    exact null isNull
  · split at failed
    · contradiction
    all_goals
      cases failed
      exact fault _

/-! ### Changing -/

/-- The error is a fault of the path or of one above it. -/
inductive Blocks (path : Path) : Error → Prop
  | fault {above : Path} (fault : FileFault) (root : above.root = path.root)
      (segments : above.segments <+: path.segments) : Blocks path (.file fault above.text)
  | null {above : Path} (root : above.root = path.root)
      (segments : above.segments <+: path.segments) (isNull : hasNull above.text = true) :
      Blocks path .nullInPath

theorem Blocks.of_prefix {above path : Path} {error : Error} (blocks : Blocks above error)
    (root : above.root = path.root) (segments : above.segments <+: path.segments) :
    Blocks path error := by
  cases blocks with
  | fault fault sameRoot isPrefix =>
    exact .fault fault (sameRoot.trans root) (isPrefix.trans segments)
  | null sameRoot isPrefix isNull =>
    exact .null (sameRoot.trans root) (isPrefix.trans segments) isNull

theorem Blocks.of_parent {path : Path} {error : Error} (blocks : Blocks path.parent error) :
    Blocks path error :=
  blocks.of_prefix rfl (List.dropLast_prefix _)

theorem fails_change (path : Path) (operation : Place → FileTree → Except FileFault FileTree) :
    Fails setting (Blocks path) (change path operation) := by
  constructor
  intro session _ error failed
  rw [run_change] at failed
  split_ifs at failed with null
  · cases failed
    exact .null rfl List.prefix_rfl null
  · split at failed
    · contradiction
    · cases failed
      exact .fault _ rfl List.prefix_rfl

/-- Nothing is found where a file has been taken away. -/
theorem foundAt_of_run_unlink {session after : Session} {path : Path}
    (ran : unlink path setting session = (.ok (), after)) :
    foundAt after.files setting.host.workingDirectory path = .ok none := by
  rw [unlink, run_change] at ran
  split_ifs at ran
  · cases ran
  · split at ran
    · rename_i files gone
      cases ran
      exact foundAt_of_missing (FileTree.lookup_of_unlink gone)
    · cases ran

theorem fails_write (path : Path) (content : Content) :
    Fails setting (Blocks path) (write path content) := by
  refine FailsWith.andThen (.of_answers fun _ => ⟨_, rfl⟩) fun session => ?_
  exact (fails_change path _).andThen fun _ => .of_answers fun _ => ⟨_, rfl⟩

theorem fails_unlessDirectory {path : Path} {error : Error} (blocks : Blocks path error) :
    Fails setting (Blocks path) (do unless ← isDirectory path do fail error) := by
  apply (fails_isDirectory fun _ => .fault _ rfl List.prefix_rfl).andThen
  intro isThere
  cases isThere with
  | true => exact .pure _
  | false => exact .fail blocks

theorem fails_ensureDirectory (path : Path) :
    Fails setting (Blocks path) (ensureDirectory path) := by
  apply (fails_change path _).attempt_bind fun _ _ => rfl
  · intro made
    exact .pure _
  · intro error blocks
    split
    · exact .pure _
    · rename_i same
      cases same
      exact .fail blocks
    · rename_i same
      cases same
      exact fails_unlessDirectory blocks

theorem fails_ensureDirectoriesBelow (root : PathRoot) (segments : List Text) :
    Fails setting (Blocks ⟨root, segments.reverse⟩) (ensureDirectoriesBelow root segments) := by
  induction segments with
  | nil => exact fails_ensureDirectory _
  | cons segment above ih =>
    apply (fails_change _ _).attempt_bind fun _ _ => rfl
    · intro made
      exact .pure _
    · intro error blocks
      split
      · exact .pure _
      · refine FailsWith.andThen (ih.mono fun error isAbove => ?_) fun _ => fails_ensureDirectory _
        refine isAbove.of_prefix rfl ?_
        rw [List.reverse_cons]
        exact List.prefix_append _ _
      · rename_i same
        cases same
        exact fails_unlessDirectory blocks

theorem fails_ensureDirectories (path : Path) :
    Fails setting (Blocks path) (ensureDirectories path) := by
  have fails := @fails_ensureDirectoriesBelow setting path.root path.segments.reverse
  rw [List.reverse_reverse] at fails
  exact fails

end Files

namespace Archive

variable {setting : Setting} {kind : Error → Prop}

/-- Reading a jar fails because it cannot be read, or because of a null character in its path. -/
theorem fails_entriesOf {jar : Text} (unreadable : ∀ error, error.isUnreadableJar = true → kind error)
    (null : Files.hasNull jar = true → kind .nullInPath) : Fails setting kind (entriesOf jar) := by
  apply (Files.fails_read (fun fault => unreadable _ rfl) null).andThen
  intro content
  split
  · exact .pure _
  · exact .fail (unreadable _ rfl)

end Archive

end JarAtlas
