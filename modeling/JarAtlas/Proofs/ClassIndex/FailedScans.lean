import JarAtlas.Proofs.ClassIndex.Indexing
import JarAtlas.Proofs.ClassIndex.LookupCache
import JarAtlas.Proofs.Files.Directories

/-!
# Scans that fail

A scan that fails writes nothing. It may have taken away the index that it was to replace, and it may
have made directories on the way to a project that was not there. So what a lookup answers afterwards
is what it answered before, or that there is no index, unless the new directories have opened the way
to a name that is too long or to a directory in the place of the index.
-/

namespace JarAtlas.ClassIndex

open Action

section

variable {setting : Setting} {session after : Session} {project : Text} {error : Error}

/-! ### Failing builds -/

/-- Directories have been made on the way to a project that was not there, and still no index can be
written in it. -/
structure OnlyDirectories (directory : Place) (project : Text) (before after : FileTree) : Prop where
  grows : FileTree.Grows directory (fun _ node => node = .directory) before after
  noNull : Files.hasNull (pathOf project).text = false
  wasMissing : before.lookup directory (.ofText project) ≠ .ok .directory
  noIndex : ∀ content stamp, after.lookup directory (pathOf project) ≠ .ok (.file content stamp)

theorem files_of_failing_write (content : Content)
    (failed : Files.ensureDirectories (.ofText project) setting session = (.error error, after) ∨
      ∃ made, Files.ensureDirectories (.ofText project) setting session = (.ok (), made) ∧
        Files.write (pathOf project) content setting made = (.error error, after)) :
    after.files = session.files ∨
      OnlyDirectories setting.host.workingDirectory project session.files after.files := by
  have kept (needless : Files.hasNull (Path.ofText project).text = true ∨
      session.files.lookup setting.host.workingDirectory (.ofText project) = .ok .directory) :
      (Files.ensureDirectories (.ofText project) setting session).2 = session := by
    rcases needless with null | isThere
    · rcases Files.run_ensureDirectories_of_hasNull null with makes | refuses
      · rw [makes]
      · rw [refuses]
    · rw [Files.run_ensureDirectories_of_lookup isThere]
  have grows : FileTree.Grows setting.host.workingDirectory (fun _ node => node = .directory)
      session.files (Files.ensureDirectories (.ofText project) setting session).2.files :=
    Files.puts_ensureDirectories (fun _ _ => rfl) setting session
  have unmade : after = (Files.ensureDirectories (.ofText project) setting session).2 ∧
      (Files.hasNull (pathOf project).text = true ∨ ∀ content stamp,
        after.files.lookup setting.host.workingDirectory (pathOf project) ≠
          .ok (.file content stamp)) := by
    rcases failed with refused | ⟨made, makes, unwritten⟩
    · rw [refused]
      refine ⟨rfl, .inr fun content stamp isThere => ?_⟩
      rcases FileTree.exists_of_lookup isThere with ⟨place, located, -⟩
      exact Files.lookup_ne_of_run_ensureDirectories refused (lookup_project_of_locate located)
    · rcases Files.files_of_run_write unwritten with ⟨rfl, noIndex⟩
      rw [makes]
      exact ⟨rfl, noIndex⟩
  rw [← unmade.1] at kept grows
  by_cases null : Files.hasNull (pathOf project).text = true
  · exact .inl (congrArg Session.files (kept (.inl (hasNull_pathOf project ▸ null))))
  by_cases isThere : session.files.lookup setting.host.workingDirectory (.ofText project) =
      .ok .directory
  · exact .inl (congrArg Session.files (kept (.inr isThere)))
  exact .inr
    { grows
      noNull := Bool.not_eq_true _ ▸ null
      wasMissing := isThere
      noIndex := unmade.2.resolve_left null }

/-- A build that fails has written nothing. -/
theorem files_of_failing_build (failed : build project setting session = (.error error, after)) :
    after.files = session.files ∨
      OnlyDirectories setting.host.workingDirectory project session.files after.files := by
  have listing : (dependencyJars project setting session).2.files = session.files :=
    keeps_dependencyJars (fun _ _ _ => rfl) setting session
  rcases error_of_run_bind failed with unlisted | ⟨jars, listed, lists, buildsFromJars⟩
  · rw [unlisted] at listing
    exact .inl listing
  rw [lists] at listing
  have reading : (jars.foldlM addClasses ⟨0, []⟩ setting listed).2.files = listed.files :=
    Keeps.foldlM keeps_addClasses jars ⟨0, []⟩ setting listed
  rcases error_of_run_bind buildsFromJars with unread | ⟨found, read, reads, buildsFromFound⟩
  · rw [unread] at reading
    exact .inl (reading.trans listing)
  rw [reads] at reading
  rw [← listing, ← reading]
  rcases error_of_run_bind buildsFromFound with unmade | ⟨⟨⟩, made, makes, buildsInPlace⟩
  · rw [parent_pathOf] at unmade
    exact files_of_failing_write (.text []) (.inl unmade)
  rcases error_of_run_bind buildsInPlace with noHost | ⟨host, _, ⟨⟩, buildsAtTime⟩
  · cases noHost
  rcases error_of_run_bind buildsAtTime with unwritten | ⟨_, _, _, answered⟩
  · rw [parent_pathOf] at makes
    exact files_of_failing_write _ (.inr ⟨made, makes, unwritten⟩)
  · cases answered

/-! ### Failing scans -/

/-- What a scan leaves that fails on an index that is not to be replaced, or not there. -/
theorem files_of_failing_scan (failed : scan project false setting session = (.error error, after)) :
    after.files = session.files ∨
      Files.foundAt session.files setting.host.workingDirectory (pathOf project) = .ok none ∧
        OnlyDirectories setting.host.workingDirectory project session.files after.files := by
  rw [run_scan_unforced] at failed
  split at failed
  · cases failed
    exact .inl rfl
  · rename_i unindexed
    rcases files_of_failing_build failed with same | onlyDirectories
    · exact .inl same
    · exact .inr ⟨unindexed, onlyDirectories⟩
  · rcases Prod.mk.inj failed with ⟨-, rfl⟩
    exact .inl rfl

/-- What a scan leaves that fails on an index to be replaced: the index, or nothing in its place. -/
theorem files_of_failing_replacement {place : Place} (isTree : session.files.IsTree)
    (located : session.files.locate setting.host.workingDirectory (pathOf project) = .ok place)
    (failed : (do Files.unlink (pathOf project); scan project false) setting session =
      (.error error, after)) :
    after.files = session.files ∨
      session.files.unlink setting.host.workingDirectory (pathOf project) = .ok after.files := by
  rcases error_of_run_bind failed with kept | ⟨⟨⟩, between, removes, rest⟩
  · rw [Files.unlink, Files.run_change] at kept
    split_ifs at kept
    · cases kept
      exact .inl rfl
    · split at kept
      · cases kept
      · cases kept
        exact .inl rfl
  · rw [Files.unlink, Files.run_change] at removes
    split_ifs at removes
    · cases removes
    · split at removes
      · rename_i files gone
        cases removes
        right
        rcases files_of_failing_scan rest with same | ⟨-, onlyDirectories⟩
        · rw [gone, same]
        · -- The project is a directory still, so none have been made.
          exfalso
          apply onlyDirectories.wasMissing
          rcases FileTree.exists_of_unlink gone with ⟨index, _, _, -, stands, rfl⟩
          rcases FileTree.lookup_eq_directory_iff.mp (lookup_project_of_locate located)
            with ⟨parent, parentLocated, isDirectory⟩
          have keeps := isTree.keepsDirectories_remove stands
          exact FileTree.lookup_eq_directory_iff.mpr
            ⟨parent, keeps.locate parentLocated, keeps parent isDirectory⟩
      · cases removes

/-- What a scan leaves that fails: the same files, or more directories and no index, or the files
without the index. -/
theorem files_of_failing {force : Bool} (isTree : session.files.IsTree)
    (failed : scan project force setting session = (.error error, after)) :
    after.files = session.files ∨
      (Files.foundAt session.files setting.host.workingDirectory (pathOf project) = .ok none ∧
        OnlyDirectories setting.host.workingDirectory project session.files after.files) ∨
      force = true ∧
        session.files.unlink setting.host.workingDirectory (pathOf project) = .ok after.files := by
  cases force with
  | false => exact (files_of_failing_scan failed).imp_right .inl
  | true =>
    rw [run_scan_forced] at failed
    split at failed
    · rename_i node found
      rcases FileTree.exists_of_lookup (Files.lookup_of_foundAt found) with ⟨place, located, -⟩
      exact (files_of_failing_replacement isTree located failed).imp_right fun gone =>
        .inr ⟨rfl, gone⟩
    · exact (files_of_failing_scan failed).imp_right .inl

/-! ### Lookups behind failing scans -/

theorem jarOf?_of_lookupTable_error (className : Json)
    (failed : (lookupTable project setting session).1 = .error error) :
    (jarOf? className project setting session).1 = .error error := by
  rw [run_jarOf?, failed]
  rfl

theorem jarOf?_of_foundAt_none (className : Json) (unindexed :
    Files.foundAt session.files setting.host.workingDirectory (pathOf project) = .ok none) :
    (jarOf? className project setting session).1 = .error (.indexMissing (pathOf project).text) := by
  apply jarOf?_of_lookupTable_error
  rw [run_lookupTable, unindexed]

/-- A directory in the place of an index cannot be read. -/
theorem jarOf?_of_directory (className : Json)
    (noNull : Files.hasNull (pathOf project).text = false)
    (isThere : session.files.lookup setting.host.workingDirectory (pathOf project) =
      .ok .directory) :
    (jarOf? className project setting session).1 = .error (.unreadableIndex (pathOf project).text
      (Error.file .isDirectory (pathOf project).text).message) := by
  apply jarOf?_of_lookupTable_error
  rw [run_lookupTable, Files.foundAt_of_lookup isThere]
  dsimp only
  rw [run_readTable, Files.contentAt, noNull, lookupWritten_pathOf, isThere]
  rfl

/-- New directories leave the index missing, unless they have opened the way to a name that is too
long or to one of them in the place of the index. -/
theorem OnlyDirectories.jarOf? (className : Json)
    (unindexed : Files.foundAt session.files setting.host.workingDirectory (pathOf project) = .ok none)
    (onlyDirectories : OnlyDirectories setting.host.workingDirectory project session.files
      after.files) :
    (ClassIndex.jarOf? className project setting after).1 =
        .error (.indexMissing (pathOf project).text) ∨
      (∃ place, session.files.node? place = none ∧ after.files.node? place = some .directory) ∧
        ((ClassIndex.jarOf? className project setting after).1 =
            .error (.file .nameTooLong (pathOf project).text) ∨
          (ClassIndex.jarOf? className project setting after).1 =
            .error (.unreadableIndex (pathOf project).text
              (Error.file .isDirectory (pathOf project).text).message)) := by
  by_cases stillMissing :
      Files.foundAt after.files setting.host.workingDirectory (pathOf project) = .ok none
  · exact .inl (jarOf?_of_foundAt_none className stillMissing)
  refine .inr ⟨?_, ?_⟩
  · by_contra! nothingNew
    have same : ∀ place, after.files.node? place = session.files.node? place := by
      intro place
      by_contra differs
      rcases onlyDirectories.grows.exists_of_node?_ne differs with ⟨-, node, rfl, -, stands, free⟩
      exact nothingNew place (free rfl) stands
    apply stillMissing
    have everywhere : session.files.Avoids setting.host.workingDirectory (pathOf project)
        fun _ => False := fun _ _ => id
    rw [← unindexed, Files.foundAt, Files.foundAt, (everywhere.congr fun place _ => same place).1]
  · cases found : Files.foundAt after.files setting.host.workingDirectory (pathOf project) with
    | error error =>
      left
      apply jarOf?_of_lookupTable_error
      rw [run_lookupTable, found, (Files.eq_of_foundAt_error found).2]
    | ok node? =>
      cases node? with
      | none => exact absurd found stillMissing
      | some node =>
        have isThere := Files.lookup_of_foundAt found
        cases node with
        | directory => exact .inr (jarOf?_of_directory className onlyDirectories.noNull isThere)
        | file content stamp => exact absurd isThere (onlyDirectories.noIndex content stamp)

end

theorem eq_error_of_map {α β : Type} (convert : α → β) {result : Except Error α} {error : Error}
    (same : result.map convert = .error error) : result = .error error := by
  cases result <;> cases same
  rfl

/-- A setting in which Maven names no jars. -/
def jarlessSetting : Setting where
  host := { workSetting.host with answer := fun _ => .ended 0 [] [] }
  config := { Config.standard with mavenRepository := some "m2" }

end JarAtlas.ClassIndex
