import JarAtlas.Proofs.Files.Targets
import JarAtlas.Proofs.Files.Ways

/-!
# Making directories

What making a directory and those above it comes to. Below a directory that is there, it succeeds
where nothing but directories stands on the way, and it is refused where a file does. When it fails,
the path leads to no directory afterwards, though some of those above it may be new.
-/

namespace JarAtlas

namespace FileTree

variable {tree : FileTree} {workingDirectory place : Place} {root : PathRoot} {segments : List Text}

theorem lookup_eq_directory_iff {path : Path} :
    tree.lookup workingDirectory path = .ok .directory ↔
      ∃ place, tree.locate workingDirectory path = .ok place ∧
        tree.node? place = some .directory := by
  rw [lookup]
  cases tree.locate workingDirectory path with
  | error fault => simp
  | ok place => cases stands : tree.node? place <;> simp [stands]

theorem exists_of_lookup {path : Path} {node : Node}
    (found : tree.lookup workingDirectory path = .ok node) :
    ∃ place, tree.locate workingDirectory path = .ok place ∧ tree.node? place = some node := by
  rw [lookup] at found
  cases located : tree.locate workingDirectory path with
  | error fault =>
    rw [located] at found
    cases found
  | ok place =>
    rw [located] at found
    dsimp only at found
    cases stands : tree.node? place with
    | none =>
      rw [stands] at found
      cases found
    | some other =>
      rw [stands] at found
      cases found
      exact ⟨place, rfl, stands⟩

/-- A path that leads somewhere passes through the directory that its beginning leads to. -/
theorem lookup_of_locate_append {more : List Text} (goesOn : more ≠ [])
    (located : tree.locate workingDirectory ⟨root, segments ++ more⟩ = .ok place) :
    tree.lookup workingDirectory ⟨root, segments⟩ = .ok .directory := by
  rw [locate_eq_ok_iff] at located
  rcases exists_directory_of_walk_append goesOn located.2 with ⟨between, walked, stands⟩
  rw [lookup_eq_directory_iff]
  exact ⟨between, locate_eq_ok_iff.mpr ⟨byteCount_text_le located.1, walked⟩, stands⟩

end FileTree

namespace Files

open Action

theorem hasNull_append (text more : Text) : hasNull (text ++ more) = (hasNull text || hasNull more) := by
  simp [hasNull]

theorem hasNull_join (segments : List Text) :
    hasNull (Text.join "/" segments) = segments.any hasNull := by
  induction segments with
  | nil => rfl
  | cons segment others ih =>
    cases others with
    | nil => simp [Text.join]
    | cons next others =>
      rw [Text.join_cons_cons, hasNull_append, hasNull_append, ih, List.any_cons]
      simp [hasNull]

/-- A path holds a null character where one of its segments does. -/
theorem hasNull_text (path : Path) : hasNull path.text = path.segments.any hasNull := by
  unfold Path.text
  split_ifs with bare
  · rw [List.isEmpty_iff.mp bare.2]
    rfl
  · rw [hasNull_append, hasNull_join]
    cases path.root <;> rfl

variable {setting : Setting} {session after : Session} {error : Error}

theorem run_isDirectory (path : Path) : isDirectory path setting session =
    ((foundAt session.files setting.host.workingDirectory path).map (· == some .directory),
      session) := by
  unfold isDirectory
  rw [run_bind, run_find?]
  cases foundAt session.files setting.host.workingDirectory path <;> rfl

theorem run_makeDirectory (path : Path) : makeDirectory path setting session =
    if hasNull path.text then (.error .nullInPath, session)
    else
      match session.files.makeDirectory setting.host.workingDirectory path with
      | .ok files => (.ok (), { session with files })
      | .error fault => (.error (.file fault path.text), session) :=
  run_change _ _

/-- Unless it is there, a path that is to be a directory is an error. -/
theorem run_unlessDirectory (path : Path) (error : Error) :
    (do unless ← isDirectory path do Action.fail error : Action Unit) setting session =
      match foundAt session.files setting.host.workingDirectory path with
      | .ok (some .directory) => (.ok (), session)
      | .ok _ => (.error error, session)
      | .error other => (.error other, session) := by
  rw [run_bind, run_isDirectory]
  cases foundAt session.files setting.host.workingDirectory path with
  | error other => rfl
  | ok found =>
    cases found with
    | none => rfl
    | some node => cases node <;> rfl

theorem run_ensureDirectory (path : Path) : ensureDirectory path setting session =
    match makeDirectory path setting session with
    | (.ok (), session) => (.ok (), session)
    | (.error (.file .missing path), session) => (.error (.file .missing path), session)
    | (.error error, session) =>
      (do unless ← isDirectory path do Action.fail error : Action Unit) setting session := by
  unfold ensureDirectory
  rw [run_bind, run_attempt]
  rcases makeDirectory path setting session with ⟨result, between⟩
  cases result with
  | ok answer => rfl
  | error error =>
    cases error with
    | file fault missed => cases fault <;> rfl
    | _ => rfl

theorem run_ensureDirectoriesBelow_cons (root : PathRoot) (segment : Text) (above : List Text) :
    ensureDirectoriesBelow root (segment :: above) setting session =
      let path : Path := { root, segments := (segment :: above).reverse }
      match makeDirectory path setting session with
      | (.ok (), session) => (.ok (), session)
      | (.error (.file .missing _), session) =>
        (do ensureDirectoriesBelow root above; ensureDirectory path) setting session
      | (.error error, session) =>
        (do unless ← isDirectory path do Action.fail error : Action Unit) setting session := by
  conv_lhs => rw [ensureDirectoriesBelow]
  rw [run_bind, run_attempt]
  dsimp only
  rcases makeDirectory _ setting session with ⟨result, between⟩
  cases result with
  | ok answer => rfl
  | error error =>
    cases error with
    | file fault missed => cases fault <;> rfl
    | _ => rfl

/-! ### Failures -/

theorem of_run_unlessDirectory {path : Path} {other : Error}
    (failed : (do unless ← isDirectory path do Action.fail other : Action Unit) setting session =
      (.error error, after)) :
    after = session ∧
      session.files.lookup setting.host.workingDirectory path ≠ .ok .directory := by
  rw [run_unlessDirectory] at failed
  constructor
  · split at failed <;> cases failed <;> rfl
  · intro isThere
    rw [foundAt_of_lookup isThere] at failed
    cases failed

/-- A directory that cannot be made leaves the session as it is. Where it is refused because
something is missing, the path leads to no directory. -/
theorem of_run_makeDirectory {path : Path}
    (failed : makeDirectory path setting session = (.error error, after)) :
    after = session ∧ ∀ missed, error = .file .missing missed →
      session.files.lookup setting.host.workingDirectory path ≠ .ok .directory := by
  rw [run_makeDirectory] at failed
  split_ifs at failed with null
  · cases failed
    exact ⟨rfl, fun missed isMissing => by cases isMissing⟩
  · split at failed
    · cases failed
    · rename_i fault refused
      cases failed
      refine ⟨rfl, ?_⟩
      rintro missed isMissing isThere
      cases isMissing
      rcases FileTree.lookup_eq_directory_iff.mp isThere with ⟨place, located, stands⟩
      simp [FileTree.makeDirectory, located, stands] at refused

theorem lookup_ne_of_run_ensureDirectory {path : Path}
    (failed : ensureDirectory path setting session = (.error error, after)) :
    after.files.lookup setting.host.workingDirectory path ≠ .ok .directory := by
  rw [run_ensureDirectory] at failed
  rcases made : makeDirectory path setting session with ⟨result, between⟩
  rw [made] at failed
  cases result with
  | ok answer => cases failed
  | error refusal =>
    rcases of_run_makeDirectory made with ⟨rfl, missing⟩
    split at failed
    · cases failed
    · rename_i missed _ same
      cases failed
      cases same
      exact missing missed rfl
    · rename_i other _ _ same
      cases same
      rcases of_run_unlessDirectory failed with ⟨rfl, nowhere⟩
      exact nowhere

/-- After a failure the path leads to no directory. -/
theorem lookup_ne_of_run_ensureDirectoriesBelow {root : PathRoot} {segments : List Text}
    (failed : ensureDirectoriesBelow root segments setting session = (.error error, after)) :
    after.files.lookup setting.host.workingDirectory ⟨root, segments.reverse⟩ ≠
      .ok .directory := by
  induction segments generalizing session after with
  | nil => exact lookup_ne_of_run_ensureDirectory failed
  | cons segment above ih =>
    rw [run_ensureDirectoriesBelow_cons] at failed
    dsimp only at failed
    rcases made : makeDirectory ⟨root, (segment :: above).reverse⟩ setting session
      with ⟨result, between⟩
    rw [made] at failed
    cases result with
    | ok answer => cases failed
    | error refusal =>
      rcases of_run_makeDirectory made with ⟨rfl, -⟩
      split at failed
      · cases failed
      · rename_i same
        cases same
        rw [run_bind] at failed
        rcases first : ensureDirectoriesBelow root above setting between with ⟨aboveResult, ready⟩
        rw [first] at failed
        cases aboveResult with
        | ok answer => exact lookup_ne_of_run_ensureDirectory failed
        | error aboveError =>
          cases failed
          -- Where the way above is no directory, nothing can be reached below it.
          intro isThere
          rcases FileTree.lookup_eq_directory_iff.mp isThere with ⟨place, located, -⟩
          rw [List.reverse_cons] at located
          exact ih first (FileTree.lookup_of_locate_append (List.cons_ne_nil _ _) located)
      · rename_i same
        cases same
        rcases of_run_unlessDirectory failed with ⟨rfl, nowhere⟩
        exact nowhere

theorem lookup_ne_of_run_ensureDirectories {path : Path}
    (failed : ensureDirectories path setting session = (.error error, after)) :
    after.files.lookup setting.host.workingDirectory path ≠ .ok .directory := by
  have nowhere := lookup_ne_of_run_ensureDirectoriesBelow failed
  rwa [List.reverse_reverse] at nowhere

/-- A write that fails changes nothing, and no file stands where it was to go. -/
theorem files_of_run_write {path : Path} {content : Content}
    (failed : write path content setting session = (.error error, after)) :
    after = session ∧ (hasNull path.text = true ∨
      ∀ other stamp, session.files.lookup setting.host.workingDirectory path ≠
        .ok (.file other stamp)) := by
  rw [run_write] at failed
  split_ifs at failed with null
  · cases failed
    exact ⟨rfl, .inl null⟩
  · split at failed
    · cases failed
    · rename_i fault unwritten
      cases failed
      refine ⟨rfl, .inr fun other stamp isThere => ?_⟩
      rcases FileTree.exists_of_lookup isThere with ⟨place, located, stands⟩
      simp [FileTree.write, located, stands] at unwritten

/-! ### Nothing to do -/

/-- What is a directory already need not be made. -/
theorem run_ensureDirectories_of_lookup {path : Path}
    (isThere : session.files.lookup setting.host.workingDirectory path = .ok .directory) :
    ensureDirectories path setting session = (.ok (), session) := by
  have refused : ∃ error, makeDirectory path setting session = (.error error, session) ∧
      ∀ missed, error ≠ .file .missing missed := by
    rcases FileTree.lookup_eq_directory_iff.mp isThere with ⟨place, located, stands⟩
    rw [run_makeDirectory]
    split_ifs with null
    · exact ⟨_, rfl, by simp⟩
    · refine ⟨.file .alreadyThere path.text, ?_, by simp⟩
      simp [FileTree.makeDirectory, located, stands]
  have answered (error : Error) :
      (do unless ← isDirectory path do Action.fail error : Action Unit) setting session =
        (.ok (), session) := by
    rw [run_unlessDirectory, foundAt_of_lookup isThere]
  rcases refused with ⟨error, made, notMissing⟩
  rcases path with ⟨root, segments⟩
  unfold ensureDirectories
  cases reversed : segments.reverse with
  | nil =>
    have bare : segments = [] := List.reverse_eq_nil_iff.mp reversed
    subst bare
    rw [ensureDirectoriesBelow, run_ensureDirectory, made]
    split <;> simp_all
  | cons segment above =>
    have whole : (segment :: above).reverse = segments := by rw [← reversed, List.reverse_reverse]
    rw [run_ensureDirectoriesBelow_cons]
    dsimp only
    rw [whole, made]
    split <;> simp_all

/-- No directory is made for a path with a null character. -/
theorem run_ensureDirectories_of_hasNull {path : Path} (null : hasNull path.text = true) :
    ensureDirectories path setting session = (.ok (), session) ∨
      ensureDirectories path setting session = (.error .nullInPath, session) := by
  rcases path with ⟨root, segments⟩
  unfold ensureDirectories
  cases reversed : segments.reverse with
  | nil =>
    rw [hasNull_text, List.reverse_eq_nil_iff.mp reversed] at null
    cases null
  | cons segment above =>
    have whole : (segment :: above).reverse = segments := by rw [← reversed, List.reverse_reverse]
    rw [run_ensureDirectoriesBelow_cons]
    dsimp only
    rw [whole, run_makeDirectory, if_pos null]
    dsimp only
    rw [run_unlessDirectory]
    split
    · exact .inl rfl
    · exact .inr rfl
    · rename_i refused
      rw [(eq_of_foundAt_error refused).1] at null
      cases null

end Files

end JarAtlas
