import JarAtlas.Proofs.ClassIndex.Coordinates
import JarAtlas.Proofs.ClassIndex.Faithfulness
import JarAtlas.Proofs.Files.DistinctPlaces
import JarAtlas.Proofs.Files.Directories
import JarAtlas.Proofs.Files.Temporary
import JarAtlas.Proofs.Text.Order
import JarAtlas.Proofs.Text.Words

/-!
# The list of dependency jars

The jars of a dependency tree are those that its lines name and that are there, each once and in the
order in which they are first named. Where Maven gives no tree, they are the jars of the repository,
sorted. A path that cannot be asked for ends the list.
-/

namespace JarAtlas

open Action

namespace Tool

/-- The program that Maven is launched by. -/
def mavenProgram (setting : Setting) : Text :=
  let program : Text := if setting.host.isWindows then "mvn.cmd" else "mvn"
  match given setting.config.mavenHome with
  | some home => (programIn (.ofText home) program).text
  | none => program

/-- The launch of Maven for the dependency tree of a project. -/
def mavenLaunch (setting : Setting) (project : Text) : Launch where
  command := [mavenProgram setting, "dependency:tree", "-DoutputType=text"]
  directory := some project
  timeout := setting.config.mavenTimeout
  input := none

theorem run_mavenCommand (setting : Setting) (session : Session) :
    mavenCommand setting session = (.ok (mavenProgram setting), session) := by
  unfold mavenCommand mavenProgram
  simp only [run_bind, run_host, run_config]
  cases given setting.config.mavenHome <;> rfl

/-- A tool has an output exactly if it ended well. -/
theorem outputOf_eq_ok_iff {tool output : Text} {timeout : Binary64} {result : ToolResult} :
    outputOf tool timeout result = .ok output ↔ ∃ errors, result = .ended 0 output errors := by
  constructor
  · intro answers
    unfold outputOf at answers
    split at answers
    · split_ifs at answers with well
      cases answers
      exact ⟨_, by rw [well]⟩
    · cases answers
    · cases answers
  · rintro ⟨errors, rfl⟩
    rfl

end Tool

namespace ClassIndex

open Text Files Tool

variable {setting : Setting} {session : Session}

/-! ### Jars of a tree -/

/-- The path of the jar that a line of a dependency tree names. -/
def namedJar? (repository : Path) (line : Text) : Option Path :=
  (Coordinate.ofLine? line).bind fun coordinate => Coordinate.jarPath? coordinate repository

/-- Adds a jar that is not among those before. -/
def keepJar (jars : List Text) (jar : Text) : List Text :=
  if jars.contains jar then jars else jars ++ [jar]

theorem run_addDependency {repository : Path} {jars : List Text} {line : Text} :
    addDependency repository jars line setting session =
      match namedJar? repository line with
      | none => (.ok jars, session)
      | some path =>
        ((foundAt session.files setting.host.workingDirectory path).map fun found =>
          if found.isSome then keepJar jars path.text else jars, session) := by
  unfold addDependency
  change (match namedJar? repository line with
    | none => (pure jars : Action (List Text))
    | some path => _) setting session = _
  cases namedJar? repository line with
  | none => rfl
  | some path =>
    dsimp only
    rw [run_bind, run_doesExist]
    cases foundAt session.files setting.host.workingDirectory path with
    | error error => rfl
    | ok found => cases found <;> rfl

/-- Lines that name no path that cannot be asked for add the jars among theirs that are there. -/
theorem run_addDependencies {repository : Path} {named : List Text} (jars : List Text)
    (asked : ∀ path ∈ named.filterMap (namedJar? repository),
      ¬ Refuses session.files setting.host.workingDirectory path) :
    named.foldlM (addDependency repository) jars setting session =
      (.ok ((((named.filterMap (namedJar? repository)).filter
        (Stands session.files setting.host.workingDirectory)).map Path.text).foldl keepJar jars),
        session) := by
  induction named generalizing jars with
  | nil => rfl
  | cons line others ih =>
    rw [List.foldlM_cons, run_bind, run_addDependency]
    cases isNamed : namedJar? repository line with
    | none =>
      rw [List.filterMap_cons_none isNamed] at asked ⊢
      exact ih jars asked
    | some path =>
      rw [List.filterMap_cons_some isNamed, List.forall_mem_cons] at asked
      dsimp only
      rw [List.filterMap_cons_some isNamed, foundAt_of_not_refuses asked.1, List.filter_cons]
      refine (ih _ asked.2).trans ?_
      unfold Stands
      cases session.files.lookup setting.host.workingDirectory path <;> rfl

/-- The first named path that cannot be asked for ends the list. -/
theorem run_addDependencies_of_refuses {repository path : Path} {named : List Text}
    {before behind : List Path} (jars : List Text)
    (split : named.filterMap (namedJar? repository) = before ++ path :: behind)
    (asked : ∀ other ∈ before, ¬ Refuses session.files setting.host.workingDirectory other)
    (refuses : Refuses session.files setting.host.workingDirectory path) :
    named.foldlM (addDependency repository) jars setting session =
      (.error (.file .nameTooLong path.text), session) := by
  rcases List.filterMap_eq_append_iff.mp split with ⟨first, rest, rfl, rfl, found⟩
  rcases List.filterMap_eq_cons_iff.mp found with ⟨blank, line, others, rfl, unnamed, isNamed, -⟩
  have passed : blank.filterMap (namedJar? repository) = [] :=
    List.filterMap_eq_nil_iff.mpr unnamed
  rw [List.foldlM_append, run_bind, run_addDependencies jars asked]
  dsimp only
  rw [List.foldlM_append, run_bind, run_addDependencies _ (by simp [passed])]
  dsimp only
  rw [List.foldlM_cons, run_bind, run_addDependency, isNamed]
  dsimp only
  rw [foundAt_of_refuses refuses]
  rfl

/-! ### Jars of a repository -/

/-- A plain file with the ending of a jar is below a place. -/
def IsJarBelow (files : FileTree) (place below : Place) : Prop :=
  (∃ content stamp, files.node? (place ++ below) = some (.file content stamp)) ∧
    ∃ name ∈ below.getLast?, (".jar" : Text) <:+ name

/-- The paths of exactly the jars below a place, each once, sorted. -/
structure ListsJars (files : FileTree) (repository : Path) (place : Place) (jars : List Text) :
    Prop where
  sorted : jars.Pairwise fun jar other => precedes jar other = true
  exact : ∃ places : List Place, places.Nodup ∧
    (∀ below, below ∈ places ↔ IsJarBelow files place below) ∧
    jars.Perm (places.map fun below => (repository.down below).text)

/-- The path of a directory or of a jar below the repository is too long. -/
def IsLongBelow (files : FileTree) (repository : Path) (place : Place) (path : Path) : Prop :=
  ∃ below, (files.node? (place ++ below) = some .directory ∨ IsJarBelow files place below) ∧
    path = repository.down below ∧ FileTree.pathLimit < byteCount path.text

theorem isJar_iff {names : Place} :
    isJar names = true ↔ ∃ name ∈ names.getLast?, (".jar" : Text) <:+ name := by
  cases last : names.getLast? <;> simp [isJar, last, endsWith_iff]

/-- The paths of the jars below a place, sorted. -/
def jarsBelow (files : FileTree) (repository : Path) (place : Place) : List Text :=
  (((files.filesBelow place).filter isJar).map fun below =>
    (repository.down below).text).mergeSort precedes

section

variable {files : FileTree} {repository path : Path} {place : Place}
  (distinct : files.HasDistinctPlaces)

include distinct

theorem listsJars_jarsBelow :
    ListsJars files repository place (jarsBelow files repository place) where
  sorted := @List.pairwise_mergeSort _ precedes (fun _ _ _ => precedes_trans) precedes_total _
  exact := by
    refine ⟨_, (distinct.nodup_filesBelow place).filter _, ?_, List.mergeSort_perm _ _⟩
    intro below
    rw [List.mem_filter, FileTree.mem_filesBelow, IsJarBelow, isJar_iff]
    refine and_congr_left ?_
    rintro ⟨name, last, -⟩
    have nonempty : place ++ below ≠ [] := by
      intro empty
      rw [(List.append_eq_nil_iff.mp empty).2] at last
      cases last
    simp only [distinct.node?_eq_some_iff nonempty]

theorem isLongBelow_of_longPath? (found : longPath? files repository place = some path) :
    IsLongBelow files repository place path := by
  rcases List.exists_of_findSome?_eq_some found with ⟨⟨below, node⟩, member, isLong⟩
  simp only [Option.ite_none_right_eq_some, Bool.and_eq_true, Bool.or_eq_true, beq_iff_eq,
    decide_eq_true_eq, Option.some.injEq, isJar_iff] at isLong
  rcases isLong with ⟨⟨asked, long⟩, rfl⟩
  refine ⟨below, ?_, rfl, long⟩
  by_cases root : place ++ below = []
  · exact .inl (by rw [root]; rfl)
  · have stands := (distinct.node?_eq_some_iff root).mpr (FileTree.mem_below.mp member)
    rcases asked with rfl | isJar
    · exact .inl stands
    · cases node with
      | directory => exact .inl stands
      | file content stamp => exact .inr ⟨⟨content, stamp, stands⟩, isJar⟩

/-- A search that finds no path too long has none to ask for. -/
theorem not_isLongBelow_of_longPath? (fits : byteCount repository.text ≤ FileTree.pathLimit)
    (none : longPath? files repository place = none) :
    ¬ IsLongBelow files repository place path := by
  rintro ⟨below, asked, rfl, long⟩
  have nonempty : place ++ below ≠ [] := by
    intro empty
    rw [(List.append_eq_nil_iff.mp empty).2, Path.down_nil] at long
    omega
  obtain ⟨node, stands, kind⟩ : ∃ node, files.node? (place ++ below) = some node ∧
      (node = .directory ∨ isJar below = true) := by
    rcases asked with isDirectory | ⟨⟨content, stamp, isFile⟩, named⟩
    · exact ⟨_, isDirectory, .inl rfl⟩
    · exact ⟨_, isFile, .inr (isJar_iff.mpr named)⟩
  have member := FileTree.mem_below.mpr ((distinct.node?_eq_some_iff nonempty).mp stands)
  have passed := List.findSome?_eq_none_iff.mp none _ member
  simp only [ite_eq_right_iff, reduceCtorEq, imp_false, Bool.and_eq_true, Bool.or_eq_true,
    beq_iff_eq, decide_eq_true_eq] at passed
  exact passed ⟨kind, long⟩

end

theorem run_repository : repository setting session =
    match setting.config.repository? setting.host.environment with
    | some path => (.ok path, session)
    | none => (.error .homeUnknown, session) := by
  unfold repository
  simp only [run_bind, run_host, run_config]
  cases setting.config.repository? setting.host.environment <;> rfl

section

variable {repository : Path}
  (known : setting.config.repository? setting.host.environment = some repository)

include known

theorem run_repositoryJars : repositoryJars setting session =
    (match foundAt session.files setting.host.workingDirectory repository with
    | .error error => .error error
    | .ok found =>
      if found = some .directory then
        match session.files.locate setting.host.workingDirectory repository with
        | .error _ => .ok []
        | .ok place =>
          match longPath? session.files repository place with
          | some path => .error (.file .nameTooLong path.text)
          | none => .ok (jarsBelow session.files repository place)
      else .error (.repositoryMissing repository.text), session) := by
  unfold repositoryJars
  rw [run_bind, run_repository, known]
  dsimp only
  rw [run_bind, run_isDirectory]
  cases foundAt session.files setting.host.workingDirectory repository with
  | error error => rfl
  | ok found =>
    by_cases isDirectory : found = some .directory
    · simp only [Except.map, isDirectory, beq_self_eq_true, if_true, run_bind, run_host, run_get]
      cases session.files.locate setting.host.workingDirectory repository with
      | error fault => rfl
      | ok place =>
        dsimp only
        cases longPath? session.files repository place <;> rfl
    · have other : (found == some .directory) = false := beq_eq_false_iff_ne.mpr isDirectory
      simp only [Except.map, other, if_neg isDirectory]
      rfl

end

/-! ### Both lists -/

/-- A launch of Maven is logged, and it gives an output exactly if Maven ends well. -/
theorem exists_run_maven (setting : Setting) (session : Session) (project : Text) :
    ∃ result, run [mavenProgram setting, "dependency:tree", "-DoutputType=text"]
        setting.config.mavenTimeout (some project) setting session =
        (result, { session with launches := session.launches ++ [mavenLaunch setting project] }) ∧
      ∀ output, result = .ok output ↔
        ∃ errors, setting.host.answer (mavenLaunch setting project) = .ended 0 output errors := by
  refine ⟨outputOf (Path.ofText (mavenProgram setting)).name setting.config.mavenTimeout
    (setting.host.answer (mavenLaunch setting project)), ?_, fun _ => outputOf_eq_ok_iff⟩
  unfold run
  rw [run_bind]
  exact run_ofExcept _ _ _

/-- The list is that of the tree if Maven ends well, and else that of the repository. -/
theorem exists_run_dependencyJars (setting : Setting) (session : Session) (project : Text) :
    ∃ logged : Session, logged.files = session.files ∧
      (∀ output errors, setting.host.answer (mavenLaunch setting project) = .ended 0 output errors →
        dependencyJars project setting session =
          (do
            let repository ← repository
            (lines output).foldlM (addDependency repository) [] : Action (List Text))
            setting logged) ∧
      ((∀ output errors,
          setting.host.answer (mavenLaunch setting project) ≠ .ended 0 output errors) →
        dependencyJars project setting session = repositoryJars setting logged) := by
  rcases exists_run_maven setting session project with ⟨result, ran, answers⟩
  let logged : Session :=
    { session with launches := session.launches ++ [mavenLaunch setting project] }
  have attempted := run_attempt (run [mavenProgram setting, "dependency:tree",
    "-DoutputType=text"] setting.config.mavenTimeout (some project)) setting session
  rw [ran] at attempted
  have runs : dependencyJars project setting session = _ :=
    (run_bind_of_ok (run_mavenCommand setting session)).trans
      ((run_bind_of_ok (run_config setting session)).trans (run_bind_of_ok attempted))
  refine ⟨logged, rfl, ?_, ?_⟩
  · intro output errors ended
    obtain rfl : result = .ok output := (answers output).mpr ⟨errors, ended⟩
    exact runs
  · intro failed
    cases result with
    | error error => exact runs
    | ok output =>
      rcases (answers output).mp rfl with ⟨errors, ended⟩
      exact absurd ended (failed output errors)

theorem foldl_keepJar (jars : List Text) : jars.foldl keepJar [] = jars.eraseDups :=
  foldl_eq_eraseDups jars

section

variable {project : Text} {repository : Path}
  (known : setting.config.repository? setting.host.environment = some repository)

include known

/-- The list of a tree. -/
theorem dependencyJars_of_ended {output errors : Text}
    (ended : setting.host.answer (mavenLaunch setting project) = .ended 0 output errors) :
    ((∀ path ∈ (lines output).filterMap (namedJar? repository),
        ¬ Refuses session.files setting.host.workingDirectory path) →
      (dependencyJars project setting session).1 =
        .ok ((((lines output).filterMap (namedJar? repository)).filter
          (Stands session.files setting.host.workingDirectory)).map Path.text).eraseDups) ∧
    ∀ before path behind,
      (lines output).filterMap (namedJar? repository) = before ++ path :: behind →
      (∀ other ∈ before, ¬ Refuses session.files setting.host.workingDirectory other) →
      Refuses session.files setting.host.workingDirectory path →
      (dependencyJars project setting session).1 = .error (.file .nameTooLong path.text) := by
  rcases exists_run_dependencyJars setting session project with ⟨logged, sameFiles, ofTree, -⟩
  have runs : dependencyJars project setting session =
      (lines output).foldlM (addDependency repository) [] setting logged := by
    rw [ofTree output errors ended, run_bind, run_repository, known]
  rw [runs, ← sameFiles]
  refine ⟨fun asked => ?_, fun before path behind split asked refuses => ?_⟩
  · rw [run_addDependencies [] asked, foldl_keepJar]
  · rw [run_addDependencies_of_refuses [] split asked refuses]

/-- The list of a repository. -/
theorem dependencyJars_of_failed
    (failed : ∀ output errors,
      setting.host.answer (mavenLaunch setting project) ≠ .ended 0 output errors) :
    (∀ place, session.files.locate setting.host.workingDirectory repository = .ok place →
      session.files.node? place = some .directory →
      (dependencyJars project setting session).1 =
        match longPath? session.files repository place with
        | some path => .error (.file .nameTooLong path.text)
        | none => .ok (jarsBelow session.files repository place)) ∧
    (Refuses session.files setting.host.workingDirectory repository →
      (dependencyJars project setting session).1 =
        .error (.file .nameTooLong repository.text)) ∧
    (¬ Refuses session.files setting.host.workingDirectory repository →
      session.files.lookup setting.host.workingDirectory repository ≠ .ok .directory →
      (dependencyJars project setting session).1 =
        .error (.repositoryMissing repository.text)) := by
  rcases exists_run_dependencyJars setting session project with ⟨logged, sameFiles, -, ofRepository⟩
  rw [(ofRepository failed).trans (run_repositoryJars known), sameFiles]
  refine ⟨fun place located isDirectory => ?_, fun refuses => ?_, fun asked other => ?_⟩
  · have isThere : session.files.lookup setting.host.workingDirectory repository = .ok .directory :=
      FileTree.lookup_eq_directory_iff.mpr ⟨place, located, isDirectory⟩
    rw [foundAt_of_lookup isThere, located]
    rfl
  · rw [foundAt_of_refuses refuses]
  · have noDirectory : (session.files.lookup setting.host.workingDirectory repository).toOption ≠
        some .directory := by
      cases found : session.files.lookup setting.host.workingDirectory repository with
      | error fault => simp [Except.toOption]
      | ok node => simpa [Except.toOption, found] using other
    rw [foundAt_of_not_refuses asked]
    simp only [if_neg noDirectory]

end

theorem dependencyJars_homeless {project : Text}
    (unknown : setting.config.repository? setting.host.environment = none) :
    (dependencyJars project setting session).1 = .error .homeUnknown := by
  rcases exists_run_dependencyJars setting session project
    with ⟨logged, -, ofTree, ofRepository⟩
  by_cases ended : ∃ output errors,
      setting.host.answer (mavenLaunch setting project) = .ended 0 output errors
  · rcases ended with ⟨output, errors, ended⟩
    rw [ofTree output errors ended, run_bind, run_repository, unknown]
  · rw [ofRepository fun output errors same => ended ⟨output, errors, same⟩]
    unfold repositoryJars
    rw [run_bind, run_repository, unknown]

/-- If Maven gives a dependency tree, the list holds the jars that its lines name and that are
there, each where it is named first, unless a path among them cannot be asked for. A line that draws
an artifact names its coordinate, whole. If Maven fails, the list holds the jars of the repository,
sorted, and the repository has to be a directory that can be asked for, with all directories and
jars below. -/
theorem dependencyJars_listed (setting : Setting) (session : Session) (project : Text)
    (distinct : session.files.HasDistinctPlaces) :
    let result := (dependencyJars project setting session).1
    let files := session.files
    let directory := setting.host.workingDirectory
    let repository? := setting.config.repository? setting.host.environment
    let answer := setting.host.answer (mavenLaunch setting project)
    (∀ repository output errors, repository? = some repository → answer = .ended 0 output errors →
      let named := (lines output).filterMap (namedJar? repository)
      ((∀ path ∈ named, ¬ Refuses files directory path) →
        ∃ jars, result = .ok jars ∧ jars.Nodup ∧
          jars = ((named.filter (Stands files directory)).map Path.text).eraseDups) ∧
      ∀ before path behind, named = before ++ path :: behind →
        (∀ other ∈ before, ¬ Refuses files directory other) → Refuses files directory path →
        result = .error (.file .nameTooLong path.text)) ∧
    (∀ art parts suffix, Coordinate.IsArt art → Coordinate.AreParts parts →
      Coordinate.IsSuffix suffix →
      Coordinate.ofLine? ("[INFO] ".toList ++ art ++ join ":" parts ++ suffix) =
        some (join ":" parts)) ∧
    (∀ repository, repository? = some repository →
      (∀ output errors, answer ≠ .ended 0 output errors) →
      (∀ place, files.locate directory repository = .ok place →
        files.node? place = some .directory →
        ((∀ path, ¬ IsLongBelow files repository place path) →
          ∃ jars, result = .ok jars ∧ ListsJars files repository place jars) ∧
        ((∃ path, IsLongBelow files repository place path) →
          ∃ path, IsLongBelow files repository place path ∧
            result = .error (.file .nameTooLong path.text))) ∧
      (Refuses files directory repository →
        result = .error (.file .nameTooLong repository.text)) ∧
      (¬ Refuses files directory repository →
        files.lookup directory repository ≠ .ok .directory →
        result = .error (.repositoryMissing repository.text))) ∧
    (repository? = none → result = .error .homeUnknown) := by
  refine ⟨?_, fun _ _ _ => Coordinate.ofLine?_art, ?_, dependencyJars_homeless⟩
  · intro repository output errors known ended
    rcases @dependencyJars_of_ended _ session _ _ known _ _ ended with ⟨lists, refused⟩
    exact ⟨fun asked => ⟨_, lists asked, nodup_eraseDups _, rfl⟩, refused⟩
  · intro repository known failed
    rcases @dependencyJars_of_failed _ session _ _ known failed with ⟨lists, refused, missing⟩
    refine ⟨fun place located isDirectory => ?_, refused, missing⟩
    have listed := lists place located isDirectory
    have fits := (FileTree.locate_eq_ok_iff.mp located).1
    cases found : longPath? session.files repository place with
    | some path =>
      have isLong := isLongBelow_of_longPath? distinct found
      rw [found] at listed
      exact ⟨fun short => absurd isLong (short path), fun _ => ⟨path, isLong, listed⟩⟩
    | none =>
      rw [found] at listed
      refine ⟨fun _ => ⟨_, listed, listsJars_jarsBelow distinct⟩, ?_⟩
      rintro ⟨path, isLong⟩
      exact absurd isLong (not_isLongBelow_of_longPath? distinct fits found)

/-- A setting in which Maven gives no tree. -/
def treelessSetting : Setting := { repositorySetting with host := workSetting.host }

/-- The jars of a tree, the coordinate of a line deep in one, and the jars of a repository. -/
theorem dependencyJars_listed_repository :
    (dependencyJars "." repositorySetting repositorySession).1 =
      .ok ["/m2/g/a/1/a-1.jar", "/m2/g/b/1/b-1.jar"] ∧
    Coordinate.ofLine? "[INFO] |  \\- g:a:jar:linux:1:compile (optional)" =
      some "g:a:jar:linux:1:compile" ∧
    (∃ jars, (dependencyJars "." treelessSetting repositorySession).1 = .ok jars ∧
      ListsJars repositoryTree (.ofText "/m2") ["m2"] jars) := by
  have distinct : repositorySession.files.HasDistinctPlaces := by decide +kernel
  rcases dependencyJars_listed repositorySetting repositorySession "." distinct
    with ⟨tree, line, -, -⟩
  rcases dependencyJars_listed treelessSetting repositorySession "." distinct
    with ⟨-, -, repository, -⟩
  refine ⟨?_, ?_, ?_⟩
  · rcases (tree (.ofText "/m2") _ _ (by decide) rfl).1 (by decide +kernel)
      with ⟨jars, lists, -, same⟩
    rw [lists, same]
    decide +kernel
  · exact line "|  \\- " ["g", "a", "jar", "linux", "1", "compile"] " (optional)"
      ⟨by simp, .inr (by decide)⟩ ⟨.inr rfl, by decide +kernel⟩ (by decide +kernel)
  · refine ((repository (.ofText "/m2") (by decide) (fun _ _ ended => by cases ended)).1 ["m2"]
      (by decide +kernel) (by decide)).1 fun path => ?_
    exact not_isLongBelow_of_longPath? distinct (by decide +kernel) (by decide +kernel)

/-- A group with a name that is too long for a directory. -/
def longGroup : Text := List.replicate 256 'L'

/-- A setting in which Maven names an artifact of that group in front of another. -/
def longGroupSetting : Setting where
  host :=
    { workSetting.host with
      answer := fun _ => .ended 0
        ("[INFO] ".toList ++ longGroup ++
          ":a:jar:1:compile\n[INFO] g:a:jar:1:compile\n".toList) [] }
  config := repositorySetting.config

/-- A coordinate whose jar cannot be there ends the list, though one that is there comes behind. -/
theorem dependencyJars_longGroup :
    (dependencyJars "." longGroupSetting repositorySession).1 =
      .error (.file .nameTooLong ("/m2/".toList ++ longGroup ++ "/a/1/a-1.jar".toList)) ∧
    (namedJar? (.ofText "/m2") "[INFO] g:a:jar:1:compile").map
      (Stands repositorySession.files longGroupSetting.host.workingDirectory) = some true := by
  decide +kernel

end ClassIndex

end JarAtlas
