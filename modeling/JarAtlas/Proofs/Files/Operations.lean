import JarAtlas.Archive
import JarAtlas.Proofs.Files.Paths
import JarAtlas.Proofs.Files.Trees
import JarAtlas.Proofs.Session.Operations

/-!
# What file operations come to

Reading leaves the session as it is, also where what is read is a jar, and what it answers depends on
the files and the working directory alone. Changing files touches nothing that is remembered.
-/

namespace JarAtlas.Files

open Action

/-- What asking for a path answers. -/
def foundAt (files : FileTree) (workingDirectory : Place) (path : Path) :
    Except Error (Option Node) :=
  match files.lookup workingDirectory path with
  | .ok node => .ok (some node)
  | .error fault =>
    if hasNull path.text || fault.isAbsence then .ok none else .error (.file fault path.text)

/-- What reading a path as a caller writes it answers. -/
def contentAt (files : FileTree) (workingDirectory : Place) (written : Text) :
    Except Error Content :=
  if hasNull written then .error .nullInPath
  else
    match files.lookupWritten workingDirectory written with
    | .ok (.file content _) => .ok content
    | .ok .directory => .error (.file .isDirectory written)
    | .error fault => .error (.file fault written)

/-- What can be read is in a file. -/
theorem lookup_of_contentAt {files : FileTree} {workingDirectory : Place} {written : Text}
    {content : Content} (read : contentAt files workingDirectory written = .ok content) :
    ∃ stamp, files.lookup workingDirectory (.ofText written) = .ok (.file content stamp) := by
  unfold contentAt FileTree.lookupWritten at read
  cases found : files.lookup workingDirectory (.ofText written) with
  | error fault =>
    rw [found] at read
    split_ifs at read
  | ok node =>
    rw [found] at read
    cases node with
    | directory => split_ifs at read
    | file other stamp =>
      split_ifs at read
      cases read
      exact ⟨stamp, rfl⟩

theorem foundAt_of_lookup {files : FileTree} {workingDirectory : Place} {path : Path} {node : Node}
    (found : files.lookup workingDirectory path = .ok node) :
    foundAt files workingDirectory path = .ok (some node) := by
  rw [foundAt, found]

theorem lookup_of_foundAt {files : FileTree} {workingDirectory : Place} {path : Path} {node : Node}
    (found : foundAt files workingDirectory path = .ok (some node)) :
    files.lookup workingDirectory path = .ok node := by
  unfold foundAt at found
  cases looked : files.lookup workingDirectory path with
  | ok other =>
    rw [looked] at found
    cases found
    rfl
  | error fault =>
    rw [looked] at found
    dsimp only at found
    split_ifs at found
    simp at found

theorem foundAt_of_missing {files : FileTree} {workingDirectory : Place} {path : Path}
    (missing : files.lookup workingDirectory path = .error .missing) :
    foundAt files workingDirectory path = .ok none := by
  rw [foundAt, missing]
  exact if_pos (Bool.or_true _)

theorem foundAt_of_locate_error {files : FileTree} {workingDirectory : Place} {path : Path}
    {fault : FileFault} (nowhere : files.locate workingDirectory path = .error fault) :
    foundAt files workingDirectory path =
      if hasNull path.text || fault.isAbsence then .ok none else .error (.file fault path.text) := by
  rw [foundAt, FileTree.lookup, nowhere]

theorem foundAt_of_long {files : FileTree} {workingDirectory : Place} {path : Path}
    (long : FileTree.pathLimit < Text.byteCount path.text) :
    foundAt files workingDirectory path =
      if hasNull path.text then .ok none else .error (.file .nameTooLong path.text) := by
  have nowhere : files.locate workingDirectory path = .error .nameTooLong := by
    rw [FileTree.locate, if_pos long]
  rw [foundAt_of_locate_error nowhere, FileFault.isAbsence, Bool.or_false]

/-- A path that cannot be asked for is too long. -/
theorem eq_of_foundAt_error {files : FileTree} {workingDirectory : Place} {path : Path}
    {error : Error} (refused : foundAt files workingDirectory path = .error error) :
    hasNull path.text = false ∧ error = .file .nameTooLong path.text := by
  unfold foundAt at refused
  split at refused
  · cases refused
  · rename_i fault nowhere
    split_ifs at refused with absent
    cases refused
    rw [Bool.or_eq_true, not_or, Bool.not_eq_true] at absent
    rcases FileTree.fault_of_lookup nowhere with isAbsence | rfl
    · exact absurd isAbsence absent.2
    · exact ⟨absent.1, rfl⟩

/-- A path cannot be asked for: it is too long, or a directory on the way is searched for a name
that is. -/
def Refuses (files : FileTree) (workingDirectory : Place) (path : Path) : Prop :=
  files.lookup workingDirectory path = .error .nameTooLong ∧ hasNull path.text = false

instance (files : FileTree) (workingDirectory : Place) (path : Path) :
    Decidable (Refuses files workingDirectory path) :=
  inferInstanceAs (Decidable (_ ∧ _))

/-- A path leads to something. -/
def Stands (files : FileTree) (workingDirectory : Place) (path : Path) : Bool :=
  (files.lookup workingDirectory path).isOk

theorem foundAt_of_refuses {files : FileTree} {workingDirectory : Place} {path : Path}
    (refuses : Refuses files workingDirectory path) :
    foundAt files workingDirectory path = .error (.file .nameTooLong path.text) := by
  rw [foundAt, refuses.1]
  simp [refuses.2, FileFault.isAbsence]

theorem foundAt_of_not_refuses {files : FileTree} {workingDirectory : Place} {path : Path}
    (asked : ¬ Refuses files workingDirectory path) :
    foundAt files workingDirectory path = .ok (files.lookup workingDirectory path).toOption := by
  unfold foundAt
  cases found : files.lookup workingDirectory path with
  | ok node => rfl
  | error fault =>
    rcases FileTree.fault_of_lookup found with absence | rfl
    · simp [absence, Except.toOption]
    · have null : hasNull path.text = true := by
        by_contra noNull
        exact asked ⟨found, Bool.eq_false_iff.mpr noNull⟩
      simp [null, Except.toOption]

variable {setting : Setting} {session : Session}

theorem run_find? (path : Path) : find? path setting session =
    (foundAt session.files setting.host.workingDirectory path, session) := by
  unfold find? foundAt
  simp only [run_bind, run_host, run_get]
  cases session.files.lookup setting.host.workingDirectory path with
  | ok node => rfl
  | error fault =>
    dsimp only
    split_ifs <;> rfl

theorem run_doesExist (path : Path) : doesExist path setting session =
    ((foundAt session.files setting.host.workingDirectory path).map Option.isSome, session) := by
  unfold doesExist
  rw [run_bind, run_find?]
  cases foundAt session.files setting.host.workingDirectory path <;> rfl

theorem run_refuseNull (written : Text) : refuseNull written setting session =
    (if hasNull written then .error .nullInPath else .ok (), session) := by
  unfold refuseNull
  split_ifs <;> rfl

theorem run_read (written : Text) : read written setting session =
    (contentAt session.files setting.host.workingDirectory written, session) := by
  unfold read lookup contentAt
  simp only [run_bind, run_refuseNull, run_host, run_get]
  cases hasNull written with
  | true => rfl
  | false =>
    simp only [Bool.false_eq_true, if_false]
    cases session.files.lookupWritten setting.host.workingDirectory written with
    | error fault => rfl
    | ok node => cases node <;> rfl

theorem run_change (path : Path) (operation : Place → FileTree → Except FileFault FileTree) :
    change path operation setting session =
      if hasNull path.text then (.error .nullInPath, session)
      else
        match operation setting.host.workingDirectory session.files with
        | .ok files => (.ok (), { session with files })
        | .error fault => (.error (.file fault path.text), session) := by
  unfold change
  simp only [run_bind, run_refuseNull, run_host, run_get]
  cases hasNull path.text with
  | true => rfl
  | false =>
    simp only [Bool.false_eq_true, if_false]
    cases operation setting.host.workingDirectory session.files <;> rfl

theorem run_write (path : Path) (content : Content) : write path content setting session =
    if hasNull path.text then (.error .nullInPath, session)
    else
      match session.files.write setting.host.workingDirectory path content session.clock with
      | .ok files => (.ok (), { session with files, clock := session.clock + 1 })
      | .error fault => (.error (.file fault path.text), session) := by
  unfold write
  rw [run_bind, run_get]
  dsimp only
  rw [run_bind, run_change]
  split_ifs
  · rfl
  · cases session.files.write setting.host.workingDirectory path content session.clock <;> rfl

/-- A file can be written where no directory stands. -/
theorem run_write_of_locate {path : Path} {content : Content} {place : Place}
    (noNull : hasNull path.text = false)
    (located : session.files.locate setting.host.workingDirectory path = .ok place)
    (noDirectory : session.files.node? place ≠ some .directory) :
    (write path content setting session).1 = .ok () := by
  rw [run_write, noNull]
  simp [FileTree.write, located]

theorem write_of_run_write {path : Path} {content : Content} {after : Session}
    (ran : write path content setting session = (.ok (), after)) :
    hasNull path.text = false ∧
      session.files.write setting.host.workingDirectory path content session.clock =
        .ok after.files := by
  rw [run_write] at ran
  split_ifs at ran with null
  · cases ran
  · split at ran
    · cases ran
      exact ⟨Bool.eq_false_iff.mpr null, by assumption⟩
    · cases ran

/-- A file that has been written is there, with the time of the write. -/
theorem lookup_of_run_write {path : Path} {content : Content} {after : Session}
    (ran : write path content setting session = (.ok (), after)) :
    hasNull path.text = false ∧ after.files.lookup setting.host.workingDirectory path =
      .ok (.file content session.clock) :=
  (write_of_run_write ran).imp_right FileTree.lookup_of_write

/-- What has been written can be read. -/
theorem contentAt_of_run_write {path : Path} {content : Content} {after : Session}
    (plain : path.IsPlain) (some : path.segments ≠ [])
    (ran : write path content setting session = (.ok (), after)) :
    contentAt after.files setting.host.workingDirectory path.text = .ok content := by
  rcases lookup_of_run_write ran with ⟨noNull, isThere⟩
  rw [contentAt, noNull, plain.lookupWritten_text some, isThere]
  rfl

/-! ### What is left alone -/

section Reading

variable {α : Type} {view : Session → α}

theorem keeps_find? (path : Path) : Keeps view (find? path) := by
  intro setting session
  rw [run_find?]

theorem keeps_doesExist (path : Path) : Keeps view (doesExist path) :=
  (keeps_find? path).bind fun _ => .pure _

theorem keeps_isDirectory (path : Path) : Keeps view (isDirectory path) :=
  (keeps_find? path).bind fun _ => .pure _

theorem keeps_refuseNull (written : Text) : Keeps view (refuseNull written) := by
  intro setting session
  rw [run_refuseNull]

theorem keeps_read (written : Text) : Keeps view (read written) := by
  intro setting session
  rw [run_read]

end Reading

section Changing

variable {α : Type} {view : Session → α}

theorem keeps_change
    (unfiled : ∀ session files clock, view { session with files, clock } = view session) (path : Path)
    (operation : Place → FileTree → Except FileFault FileTree) :
    Keeps view (change path operation) := by
  apply (keeps_refuseNull _).bind
  intro _
  apply Keeps.host.bind
  intro host
  apply Keeps.get.bind
  intro session
  cases operation host.workingDirectory session.files with
  | ok files => exact .modify fun session => unfiled session files session.clock
  | error fault => exact .fail _

theorem keeps_write
    (unfiled : ∀ session files clock, view { session with files, clock } = view session) (path : Path)
    (content : Content) : Keeps view (write path content) := by
  apply Keeps.get.bind
  intro session
  apply (keeps_change unfiled _ _).bind
  intro _
  exact .modify fun session => unfiled session session.files (session.clock + 1)

theorem keeps_ensureDirectory
    (unfiled : ∀ session files clock, view { session with files, clock } = view session)
    (path : Path) : Keeps view (ensureDirectory path) := by
  apply (keeps_change unfiled _ _).attempt.bind
  intro made
  split
  · exact .pure _
  · exact .fail _
  · apply (keeps_isDirectory _).bind
    intro isThere
    cases isThere with
    | true => exact .pure _
    | false => exact .fail _

theorem keeps_ensureDirectoriesBelow
    (unfiled : ∀ session files clock, view { session with files, clock } = view session)
    (root : PathRoot) (segments : List Text) : Keeps view (ensureDirectoriesBelow root segments) := by
  induction segments with
  | nil => exact keeps_ensureDirectory unfiled _
  | cons segment above ih =>
    apply (keeps_change unfiled _ _).attempt.bind
    intro made
    split
    · exact .pure _
    · exact ih.bind fun _ => keeps_ensureDirectory unfiled _
    · apply (keeps_isDirectory _).bind
      intro isThere
      cases isThere with
      | true => exact .pure _
      | false => exact .fail _

end Changing

end JarAtlas.Files

namespace JarAtlas.Archive

open Action

/-- The entries of the jar that a text leads to. -/
def entriesAt (files : FileTree) (workingDirectory : Place) (jar : Text) :
    Except Error (List (Text × Text)) :=
  match Files.contentAt files workingDirectory jar with
  | .error error => .error error
  | .ok (.text _) => .error .notArchive
  | .ok (.archive entries) =>
    .ok (entries.map fun (name, content) => (name.takeWhile (· ≠ '\x00'), content))

theorem run_entriesOf {setting : Setting} {session : Session} (jar : Text) :
    entriesOf jar setting session =
      (entriesAt session.files setting.host.workingDirectory jar, session) := by
  unfold entriesOf entriesAt
  rw [run_bind, Files.run_read]
  cases Files.contentAt session.files setting.host.workingDirectory jar with
  | error error => rfl
  | ok content => cases content <;> rfl

theorem keeps_entriesNamed {α : Type} {view : Session → α} (jar : Json) :
    Keeps view (entriesNamed jar) := by
  unfold entriesNamed
  split
  · apply (Files.keeps_read _).bind
    intro content
    cases content with
    | text value => exact .fail _
    | archive entries => exact .pure _
  · exact .fail _
  · exact .fail _

end JarAtlas.Archive
