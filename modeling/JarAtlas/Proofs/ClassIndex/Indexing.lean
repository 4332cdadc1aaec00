import JarAtlas.Proofs.ClassIndex.Scanning

/-!
# What scans find and write

A scan that answers without an index has gone through the jars of the dependencies one after the
other: a jar that cannot be read adds nothing, any other adds its classes and counts as one. What it
has found is then in the file, and the files are otherwise as they were when the jars were read.
-/

namespace JarAtlas.ClassIndex

open Action

/-! ### The classes of jars -/

/-- The names of the entries in the jar at a path, if it can be read. A name ends at its first null
character. -/
def entryNames? (files : FileTree) (directory : Place) (jar : Text) : Option (List Text) :=
  match Files.contentAt files directory jar with
  | .ok (.archive entries) => some (entries.map fun (name, _) => name.takeWhile (· ≠ '\x00'))
  | _ => none

/-- The entry of a jar is the file of a class of that name, and of no nested class. -/
def IsEntryOf (className entry : Text) : Prop :=
  ClassName.entryEnding <:+ entry ∧ '$' ∉ entry ∧
    className = (Text.dropEnding ClassName.entryEnding entry).map fun character =>
      if character = '/' then '.' else character

instance (className entry : Text) : Decidable (IsEntryOf className entry) :=
  inferInstanceAs (Decidable (_ ∧ _ ∧ _))

theorem ofEntry?_eq_some_iff {className entry : Text} :
    ClassName.ofEntry? entry = some className ↔ IsEntryOf className entry := by
  unfold ClassName.ofEntry? IsEntryOf
  rw [← Text.endsWith_iff]
  cases Text.endsWith ClassName.entryEnding entry with
  | false => simp
  | true => by_cases nested : '$' ∈ entry <;> simp [nested, eq_comm]

/-- The jar at a path can be read and holds the class. -/
def Holds (files : FileTree) (directory : Place) (className jar : Text) : Prop :=
  ∃ names ∈ entryNames? files directory jar, ∃ entry ∈ names, IsEntryOf className entry

instance (files : FileTree) (directory : Place) (className jar : Text) :
    Decidable (Holds files directory className jar) :=
  inferInstanceAs (Decidable (∃ names ∈ entryNames? files directory jar, _))

/-- The classes in the jar at a path, one for each entry; none if it cannot be read. -/
def classesIn (files : FileTree) (directory : Place) (jar : Text) : List Text :=
  ((entryNames? files directory jar).getD []).filterMap ClassName.ofEntry?

theorem mem_classesIn {files : FileTree} {directory : Place} {className jar : Text} :
    className ∈ classesIn files directory jar ↔ Holds files directory className jar := by
  unfold classesIn Holds
  cases entryNames? files directory jar <;> simp [ofEntry?_eq_some_iff]

/-- The entries of an index of jars. -/
def entriesOf (files : FileTree) (directory : Place) (jars : List Text) : List Entry :=
  jars.flatMap fun jar => (classesIn files directory jar).map fun className => { className, jar }

theorem className_entriesOf (files : FileTree) (directory : Place) (jars : List Text) :
    (entriesOf files directory jars).map Entry.className =
      jars.flatMap (classesIn files directory) := by
  unfold entriesOf
  rw [List.map_flatMap]
  congr 1
  funext jar
  rw [List.map_map]
  exact List.map_id _

theorem find?_entries_of_jar (names : List Text) (className jar : Text) :
    (names.map fun name => ({ className := name, jar } : Entry)).find? (·.className = className) =
      if className ∈ names then some { className, jar } else none := by
  induction names with
  | nil => rfl
  | cons name names ih =>
    rw [List.map_cons, List.find?_cons]
    by_cases same : name = className
    · simp [same]
    · simp [same, Ne.symm same, ih]

/-- The first entry of a class is of the first jar that holds it. -/
theorem find?_entriesOf (files : FileTree) (directory : Place) (jars : List Text)
    (className : Text) :
    ((entriesOf files directory jars).find? (·.className = className)).map Entry.jar =
      jars.find? (Holds files directory className) := by
  induction jars with
  | nil => rfl
  | cons jar jars ih =>
    change ((_ ++ entriesOf files directory jars).find? _).map _ = _
    rw [List.find?_append, find?_entries_of_jar, List.find?_cons]
    by_cases holds : Holds files directory className jar
    · simp [holds, mem_classesIn.mpr holds]
    · simp [holds, mt mem_classesIn.mp holds, ih]

section

variable {setting : Setting} {session after : Session}

/-! ### Reading jars -/

theorem run_listClasses (jar : Text) : Archive.listClasses (.text jar) setting session =
    (match Files.contentAt session.files setting.host.workingDirectory jar with
      | .error error => .error error
      | .ok (.text _) => .error .notArchive
      | .ok (.archive _) => .ok (classesIn session.files setting.host.workingDirectory jar),
      session) := by
  change (do let entries ← Archive.entriesOf jar; pure (Archive.classNames entries) : Action _)
    setting session = _
  unfold classesIn entryNames?
  rw [run_bind, Archive.run_entriesOf, Archive.entriesAt]
  cases Files.contentAt session.files setting.host.workingDirectory jar with
  | error error => rfl
  | ok content =>
    cases content with
    | text value => rfl
    | archive entries =>
      dsimp only
      rw [run_pure]
      simp only [Archive.classNames, List.filterMap_map, Option.getD_some]
      rfl

/-- What has been found in the jars: how many can be read, and their entries. -/
structure IsFoundIn (found : Found) (files : FileTree) (directory : Place) (jars : List Text) :
    Prop where
  readable : found.jars = jars.countP fun jar => (entryNames? files directory jar).isSome
  entries : found.entries = entriesOf files directory jars

theorem entriesOf_append (files : FileTree) (directory : Place) (jars others : List Text) :
    entriesOf files directory (jars ++ others) =
      entriesOf files directory jars ++ entriesOf files directory others :=
  List.flatMap_append

/-- A jar that cannot be read adds nothing. -/
theorem IsFoundIn.append_unreadable {files : FileTree} {directory : Place} {found : Found}
    {jars : List Text} {jar : Text} (isFound : IsFoundIn found files directory jars)
    (unreadable : entryNames? files directory jar = none) :
    IsFoundIn found files directory (jars ++ [jar]) := by
  constructor
  · simp [isFound.readable, unreadable]
  · simp [isFound.entries, entriesOf, classesIn, unreadable]

/-- One more jar adds its classes and counts if it can be read. -/
theorem isFoundIn_of_run_addClasses {known found : Found} {jars : List Text} {jar : Text}
    (isFound : IsFoundIn known session.files setting.host.workingDirectory jars)
    (ran : addClasses known jar setting session = (.ok found, after)) :
    after = session ∧ IsFoundIn found session.files setting.host.workingDirectory (jars ++ [jar]) := by
  unfold addClasses at ran
  rw [run_bind, run_attempt, run_listClasses] at ran
  cases read : Files.contentAt session.files setting.host.workingDirectory jar with
  | error error =>
    simp only [read] at ran
    split_ifs at ran
    · cases ran
      exact ⟨rfl, isFound.append_unreadable (by simp [entryNames?, read])⟩
    · cases ran
  | ok content =>
    cases content with
    | text value =>
      simp only [read] at ran
      cases ran
      exact ⟨rfl, isFound.append_unreadable (by simp [entryNames?, read])⟩
    | archive entries =>
      simp only [read] at ran
      cases ran
      refine ⟨rfl, ?_, ?_⟩
      · simp [isFound.readable, entryNames?, read]
      · rw [entriesOf_append, isFound.entries]
        simp [entriesOf]

/-- All jars together add their classes and count if they can be read. -/
theorem isFoundIn_of_run_foldlM {known found : Found} {jars others : List Text}
    (isFound : IsFoundIn known session.files setting.host.workingDirectory jars)
    (ran : others.foldlM addClasses known setting session = (.ok found, after)) :
    after = session ∧
      IsFoundIn found session.files setting.host.workingDirectory (jars ++ others) := by
  induction others generalizing known jars with
  | nil =>
    cases ran
    exact ⟨rfl, (List.append_nil jars).symm ▸ isFound⟩
  | cons jar others ih =>
    rw [List.foldlM_cons] at ran
    rcases exists_of_run_bind ran with ⟨more, between, first, rest⟩
    rcases isFoundIn_of_run_addClasses isFound first with ⟨rfl, isFoundMore⟩
    rcases ih isFoundMore rest with ⟨same, isFoundAll⟩
    rw [List.append_assoc] at isFoundAll
    exact ⟨same, isFoundAll⟩

/-! ### Scans -/

theorem run_scan_unforced (project : Text) : scan project false setting session =
    match Files.foundAt session.files setting.host.workingDirectory (pathOf project) with
    | .error error => (.error error, session)
    | .ok none => build project setting session
    | .ok (some _) =>
      ((valueOf (pathOf project) (Files.contentAt session.files setting.host.workingDirectory
        (pathOf project).text)).bind (summaryIn (pathOf project)), session) := by
  unfold scan
  simp only [Bool.false_and, run_bind, Files.run_doesExist]
  cases found : Files.foundAt session.files setting.host.workingDirectory (pathOf project) with
  | error error => rfl
  | ok node =>
    cases node with
    | none =>
      simp only [Except.map, Option.isSome_none, Bool.false_eq_true, if_false, run_bind,
        Files.run_doesExist, found]
    | some node =>
      simp only [Except.map, Option.isSome_some, Bool.false_eq_true, if_false, if_true, run_bind,
        Files.run_doesExist, found, run_read, run_ofExcept]
      cases valueOf (pathOf project) _ <;> rfl

theorem run_scan_forced (project : Text) : scan project true setting session =
    match Files.foundAt session.files setting.host.workingDirectory (pathOf project) with
    | .ok (some _) => (do Files.unlink (pathOf project); scan project false) setting session
    | _ => scan project false setting session := by
  unfold scan
  simp only [Bool.true_and, Bool.false_and, run_bind, Files.run_doesExist]
  cases found : Files.foundAt session.files setting.host.workingDirectory (pathOf project) with
  | error error => rfl
  | ok node =>
    cases node with
    | none => rfl
    | some node =>
      simp only [Except.map, Option.isSome_some, Bool.false_eq_true, if_false, if_true, run_bind,
        Files.run_doesExist]
      rcases Files.unlink (pathOf project) setting session with ⟨result, between⟩
      cases result with
      | error error => rfl
      | ok _ =>
        cases left : Files.foundAt between.files setting.host.workingDirectory (pathOf project) <;>
          simp only [left]

/-- The session once the index of a project, if there is one, has been taken away. -/
def withoutIndex (project : Text) (setting : Setting) (session : Session) : Session :=
  match session.files.unlink setting.host.workingDirectory (pathOf project) with
  | .ok files => { session with files }
  | .error _ => session

theorem withoutIndex_of_foundAt {project : Text}
    (unindexed : Files.foundAt session.files setting.host.workingDirectory (pathOf project) =
      .ok none) : withoutIndex project setting session = session := by
  unfold Files.foundAt at unindexed
  split at unindexed
  · cases unindexed
  · rename_i fault nothing
    rw [withoutIndex, FileTree.unlink_of_lookup_error nothing]

/-- A scan that finds no index, or replaces the one it finds, builds a new one. -/
theorem build_of_scan {project : Text} {force : Bool} {summary : ScanSummary}
    (unindexed : force = true ∨
      Files.foundAt session.files setting.host.workingDirectory (pathOf project) = .ok none)
    (scanned : scan project force setting session = (.ok summary, after)) :
    build project setting (withoutIndex project setting session) = (.ok summary, after) := by
  have fresh (nothing : Files.foundAt session.files setting.host.workingDirectory
      (pathOf project) = .ok none)
      (ran : scan project false setting session = (.ok summary, after)) :
      build project setting (withoutIndex project setting session) = (.ok summary, after) := by
    rw [run_scan_unforced, nothing] at ran
    rw [withoutIndex_of_foundAt nothing]
    exact ran
  cases force with
  | false => exact fresh (unindexed.resolve_left Bool.false_ne_true) scanned
  | true =>
    rw [run_scan_forced] at scanned
    cases found : Files.foundAt session.files setting.host.workingDirectory (pathOf project) with
    | error error =>
      rw [found, run_scan_unforced, found] at scanned
      cases scanned
    | ok node =>
      rw [found] at scanned
      cases node with
      | none => exact fresh found scanned
      | some node =>
        rcases exists_of_run_bind scanned with ⟨⟨⟩, between, removed, rest⟩
        rw [Files.unlink, Files.run_change] at removed
        split_ifs at removed
        · cases removed
        · split at removed
          · rename_i files gone
            cases removed
            have missing := FileTree.lookup_of_unlink gone
            rw [run_scan_unforced, Files.foundAt_of_missing missing] at rest
            rw [withoutIndex, gone]
            exact rest
          · cases removed

/-- An index that has been built tells what has been found in the jars of the dependencies. -/
theorem exists_of_run_build {project : Text} {summary : ScanSummary}
    (built : build project setting session = (.ok summary, after)) :
    ∃ jars found time stamp, (dependencyJars project setting session).1 = .ok jars ∧
      IsFoundIn found session.files setting.host.workingDirectory jars ∧
      summary = summaryOf (pathOf project) found.jars found.entries ∧
      Files.hasNull (pathOf project).text = false ∧
      after.files.lookup setting.host.workingDirectory (pathOf project) =
        .ok (.file (.text (json summary found.entries time).write) stamp) := by
  rcases exists_of_run_bind built with ⟨jars, listed, lists, builtFromJars⟩
  have sameFiles : listed.files = session.files := by
    have kept : (dependencyJars project setting session).2.files = session.files :=
      keeps_dependencyJars (fun _ _ _ => rfl) setting session
    rw [lists] at kept
    exact kept
  rcases exists_of_run_bind builtFromJars with ⟨found, read, reads, builtFromFound⟩
  have nothingFound : IsFoundIn ⟨0, []⟩ listed.files setting.host.workingDirectory [] := ⟨rfl, rfl⟩
  rcases isFoundIn_of_run_foldlM nothingFound reads with ⟨rfl, isFound⟩
  rcases exists_of_run_bind builtFromFound with ⟨⟨⟩, ready, _, builtInPlace⟩
  rcases exists_of_run_bind builtInPlace with ⟨host, _, ⟨⟩, builtAtTime⟩
  rcases exists_of_run_bind builtAtTime with ⟨⟨⟩, written, writes, ⟨⟩⟩
  rcases Files.lookup_of_run_write writes with ⟨noNull, isThere⟩
  rw [sameFiles] at isFound
  exact ⟨jars, found, _, _, by rw [lists], isFound, rfl, noNull, isThere⟩

end

end JarAtlas.ClassIndex
