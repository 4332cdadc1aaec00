import JarAtlas.Proofs.Analysis.Failures
import JarAtlas.Proofs.CommandLine.Arguments
import JarAtlas.Proofs.CommandLine.Tasks
import JarAtlas.Proofs.Decompilation.Failures

/-!
# Errors that leave the program

A command that prints an answer ends with it, or with a line that tells what went wrong, as long as
the error is part of the service. Any other error leaves the program. There are few causes: a lone
double dash for an argument, an index file whose value is not what it is used for, a path that is too
long, something in the way of a file that is to be written, no home directory, and a listing with a
number that has too many digits.
-/

namespace JarAtlas.CommandLine

open Action Files ClassIndex

variable {setting : Setting} {files : FileTree} {session : Session} {line : List Text}
  {command : Command} {task : Task} {className project : Text}

/-- The command looks classes of the project up in its index. -/
inductive LooksUp (project : Text) : Command → Prop
  | decompile {className : Text} {useCache : Bool} {cfr : Json} :
      LooksUp project (.decompile (.text className) (.text project) useCache cfr)
  | analyze {className : Json} {withHierarchy withSubclasses : Bool} :
      LooksUp project (.analyze className (.text project) withHierarchy withSubclasses)

/-- The command writes the file at the path: the index of a project, the kept source of a class, or
the file of a class in the temporary directory. -/
inductive Writes (setting : Setting) : Command → Path → Prop
  | index {project : Text} {force : Bool} :
      Writes setting (.scan (.text project) force) (pathOf project)
  | source {className project : Text} {cfr : Json} :
      Writes setting (.decompile (.text className) (.text project) true cfr)
        (ClassName.cachePath className (.ofText project))
  | extracted {className project : Text} {useCache : Bool} {cfr : Json} :
      Writes setting (.decompile (.text className) (.text project) useCache cfr)
        ((Files.pathOf setting.host.temporaryDirectory).join (ClassName.entry className))

/-- What makes an error leave a command that is not part of the service. -/
inductive Escapes (setting : Setting) (files : FileTree) : Command → Error → Prop
  /-- An argument is a lone double dash. -/
  | argument {command : Command} (fault : TypeFault) (lone : .list [] ∈ command.arguments) :
      Escapes setting files command (.wrongType fault)
  /-- The index that a scan reports is not what a scan writes. -/
  | unreportable {project : Text} {error : Error}
      (unusable : (indexIn files setting.host.workingDirectory project).bind (fun value =>
        (summaryIn (pathOf project) value).bind Report.scan) = .error error) :
      Escapes setting files (.scan (.text project) false) error
  /-- The index that a class is looked up in is not what a scan writes. -/
  | noTable {command : Command} {project : Text} {error : Error} (looksUp : LooksUp project command)
      (unusable : (indexIn files setting.host.workingDirectory project).bind tableIn = .error error) :
      Escapes setting files command error
  /-- The index gives a class something that names no jar. -/
  | noJar {className project : Text} {useCache : Bool} {cfr : Json} {table : LookupTable}
      {entry : Json × Json} {error : Error}
      (isTable : (indexIn files setting.host.workingDirectory project).bind tableIn = .ok table)
      (isEntry : entry ∈ table) (unnamed : Archive.NamesNoJar entry.2 error) :
      Escapes setting files (.decompile (.text className) (.text project) useCache cfr) error
  /-- Something is in the way of a file that is to be written. -/
  | blocked {command : Command} {path : Path} {error : Error} (writes : Writes setting command path)
      (blocks : Blocks path error) : Escapes setting files command error
  /-- A path that is asked for is too long. -/
  | long {command : Command} {path : Path} (isLong : path.IsTooLong) :
      Escapes setting files command (.file .nameTooLong path.text)
  /-- The path of a dependency holds a null character. -/
  | null {project : Json} {force : Bool} : Escapes setting files (.scan project force) .nullInPath
  /-- The home directory, which the local repository is looked for in, cannot be told. -/
  | homeless {project : Json} {force : Bool}
      (nowhere : setting.config.repository? setting.host.environment = none) :
      Escapes setting files (.scan project force) .homeUnknown
  /-- A number of a listing has too many digits. -/
  | oversized {className project : Json} {withHierarchy withSubclasses : Bool} (digits : Nat)
      (tooMany : Text.digitLimit < digits) :
      Escapes setting files (.analyze className project withHierarchy withSubclasses)
        (.listing (.oversized digits))

/-- The error is reported, or one of the causes makes it leave the command. -/
def IsTold (setting : Setting) (files : FileTree) (command : Command) (error : Error) : Prop :=
  error.isReported = true ∨ Escapes setting files command error

theorem coversCommon : CoversCommon (IsTold setting files command) where
  reported _ := .inl
  long _ isLong := .inr (.long isLong)

/-! ### Commands -/

theorem fails_projectOf {project : Json} (isWord : IsWord project)
    (isArgument : project ∈ command.arguments) :
    Fails setting (IsTold setting files command) (Action.ofExcept (Request.projectOf project)) := by
  apply FailsWith.ofExcept
  intro error failed
  rcases isWord with rfl | ⟨text, rfl⟩
  · cases failed
    exact .inr (.argument _ isArgument)
  · contradiction

theorem coversBuilds {force : Bool} :
    CoversBuilds setting project (IsTold setting files (.scan (.text project) force)) where
  toCoversCommon := coversCommon
  homeless nowhere := .inr (.homeless nowhere)
  null := .inr .null
  blocked _ blocks := .inr (.blocked .index blocks)

theorem fails_scan {project : Json} {force : Bool} (isProject : IsWord project) :
    FailsWith setting Session.files files (IsTold setting files (.scan project force))
      (do Action.ofExcept (Report.scan (← Request.scan project force))) := by
  rcases isProject with rfl | ⟨project, rfl⟩
  · constructor
    intro session _ error failed
    cases failed
    exact .inr (.argument _ List.mem_cons_self)
  · change FailsWith setting Session.files files _ (reportScan project force)
    cases force with
    | false =>
      exact fails_reportScan_unforced coversBuilds fun _ _ unusable => .inr (.unreportable unusable)
    | true => exact .of_fails (fails_reportScan_forced coversBuilds)

theorem coversDecompilations {useCache : Bool} {cfr : Json} :
    Decompilation.CoversDecompilations setting files className project
      (IsTold setting files (.decompile (.text className) (.text project) useCache cfr)) where
  toCoversCommon := coversCommon
  unusable _ unusable := .inr (.noTable .decompile unusable)
  unnamed _ isTable _ isEntry _ unnamed := .inr (.noJar isTable isEntry unnamed)
  extracts _ blocks := .inr (.blocked .extracted blocks)

theorem fails_decompile {className project cfr : Json} {useCache : Bool} (isClass : IsWord className)
    (isProject : IsWord project) (isCfr : cfr = .null ∨ IsWord cfr) :
    FailsWith setting (fun session => (session.files, session.memory.tables)) (files, [])
      (IsTold setting files (.decompile className project useCache cfr))
      (Request.decompile className project useCache cfr) := by
  rcases isClass with rfl | ⟨className, rfl⟩
  · exact .fail (.inr (.argument _ List.mem_cons_self))
  · apply (FailsWith.of_fails (fails_projectOf isProject (by simp [Command.arguments]))).bind_of_answer
      (Keeps.ofExcept _)
    intro session name _ isName
    rcases isProject with rfl | ⟨project, rfl⟩
    · rw [run_ofExcept] at isName
      contradiction
    · cases isName
      have asked (isAsked : cfr.isTruthy = true) : ∃ text, cfr = .text text := by
        rcases isCfr with rfl | rfl | isText
        · contradiction
        · contradiction
        · exact isText
      apply Decompilation.fails_decompile coversDecompilations asked
      rintro rfl error blocks
      exact .inr (.blocked .source blocks)

section Parts

variable {γ : Type} {view : Session → γ} {value : γ} {kind : Error → Prop} {part : Action Text}
  {parts : List (Action Text)}

/-- Started where `view` shows `value`, the first error of the parts is of a kind. -/
def PartsFail (setting : Setting) (view : Session → γ) (value : γ) (kind : Error → Prop)
    (parts : List (Action Text)) : Prop :=
  ∀ session, view session = value → ∀ error ∈ firstError? setting parts session, kind error

theorem partsFail_nil : PartsFail setting view value kind [] := by
  intro session _ error failed
  cases failed

theorem partsFail_singleton (fails : FailsWith setting view value kind part) :
    PartsFail setting view value kind [part] := by
  intro session shows error failed
  unfold firstError? at failed
  split at failed
  · rename_i outcome
    cases failed
    exact fails.isKind session shows error (by rw [outcome])
  · cases failed

/-- A part is followed by others only if it answers. -/
theorem partsFail_cons (fails : FailsWith setting view value kind part) (kept : Keeps view part)
    (others : (∃ session answer, (part setting session).1 = .ok answer) →
      PartsFail setting view value kind parts) :
    PartsFail setting view value kind (part :: parts) := by
  intro session shows error failed
  unfold firstError? at failed
  rcases outcome : part setting session with ⟨result, after⟩
  rw [outcome] at failed
  cases result with
  | error refusal =>
    cases failed
    exact fails.isKind session shows error (by rw [outcome])
  | ok answer =>
    have stillShows := kept setting session
    rw [outcome] at stillShows
    exact others ⟨session, answer, by rw [outcome]⟩ after (stillShows.trans shows) error failed

end Parts

section Analyses

variable {className : Json} {withHierarchy withSubclasses : Bool}

theorem coversAnalyses : Analysis.CoversAnalyses setting files project
    (IsTold setting files (.analyze className (.text project) withHierarchy withSubclasses)) where
  toCoversCommon := coversCommon
  unusable _ unusable := .inr (.noTable .analyze unusable)
  oversized digits tooMany := .inr (.oversized digits tooMany)

theorem fails_analyze {project : Json} (isClass : IsWord className) (isProject : IsWord project) :
    FailsWith setting Session.files files
      (IsTold setting files (.analyze className project withHierarchy withSubclasses))
      (Request.analyze className project) := by
  apply (FailsWith.of_fails (fails_projectOf isProject (by simp [Command.arguments]))).bind_of_answer
    (Keeps.ofExcept _)
  intro session name _ isName
  rcases isProject with rfl | ⟨project, rfl⟩
  · rw [run_ofExcept] at isName
    contradiction
  · cases isName
    apply Analysis.fails_analyze coversAnalyses
    · intro noText fault
      rcases isClass with rfl | ⟨text, rfl⟩
      · exact .inr (.argument fault List.mem_cons_self)
      · exact absurd rfl (noText text)
    · rintro codes rfl
      rcases isClass with isList | ⟨text, isText⟩
      · cases isList
      · cases isText

theorem fails_hierarchyPart (name : Text) :
    FailsWith setting Session.files files
      (IsTold setting files (.analyze className (.text project) withHierarchy withSubclasses))
      (hierarchyPart name project) :=
  (Analysis.fails_hierarchy coversAnalyses name).andThen fun _ => .pure _

theorem fails_subclassesPart (workers : 0 < setting.config.maxWorkers) (name : Text) :
    FailsWith setting Session.files files
      (IsTold setting files (.analyze className (.text project) withHierarchy withSubclasses))
      (subclassesPart name project) :=
  (Analysis.fails_subclasses coversAnalyses.toCoversLookups workers name).andThen fun _ => .pure _

theorem partsFail_analyze {project : Json} (workers : 0 < setting.config.maxWorkers)
    (isClass : IsWord className) (isProject : IsWord project) (isTask :
      (Command.analyze className project withHierarchy withSubclasses).task? = some task) :
    PartsFail setting Session.files files
      (IsTold setting files (.analyze className project withHierarchy withSubclasses)) task.parts := by
  cases isTask
  apply partsFail_cons
  · exact (fails_analyze isClass isProject).andThen fun _ => .pure _
  · exact (Request.keeps_analyze (fun _ _ _ => rfl) (fun _ _ => rfl) _ _).bind fun _ => .pure _
  · rintro ⟨session, answer, answered⟩
    rcases isProject with rfl | ⟨project, rfl⟩
    · cases answered
    · have last : PartsFail setting Session.files files
          (IsTold setting files (.analyze className (.text project) withHierarchy withSubclasses))
          (if withSubclasses then [subclassesPart className.display project] else []) := by
        split_ifs
        · exact partsFail_singleton (fails_subclassesPart workers _)
        · exact partsFail_nil
      cases withHierarchy with
      | false => exact last
      | true =>
        refine partsFail_cons (fails_hierarchyPart _) ?_ fun _ => last
        exact (Analysis.keeps_hierarchy _ _).bind fun _ => .pure _

end Analyses

/-- The first error of a task is reported, or one of the causes makes it leave. -/
theorem isTold_of_firstError? (parsed : parse line = .ok command) (isTask : command.task? = some task)
    (workers : 0 < setting.config.maxWorkers) (forgotten : session.memory.tables = [])
    {error : Error} (failed : firstError? setting task.parts session = some error) :
    IsTold setting session.files command error := by
  have areWords := isWord_of_parse parsed
  cases command with
  | start => contradiction
  | config output => contradiction
  | scan project force =>
    cases isTask
    exact partsFail_singleton (fails_scan (areWords project List.mem_cons_self)) session rfl error
      failed
  | decompile className project useCache cfr =>
    cases isTask
    have fails : FailsWith setting (fun session => (session.files, session.memory.tables))
        (session.files, []) (IsTold setting session.files (.decompile className project useCache cfr))
        (Request.decompile className project useCache cfr) :=
      fails_decompile (areWords className List.mem_cons_self)
        (areWords project (by simp [Command.arguments])) (isWord_cfr_of_parse parsed)
    have shows : (session.files, session.memory.tables) = (session.files, []) := by rw [forgotten]
    exact partsFail_singleton (fails.andThen fun _ => .pure _) session shows error failed
  | analyze className project withHierarchy withSubclasses =>
    exact partsFail_analyze workers (areWords className List.mem_cons_self)
      (areWords project (by simp [Command.arguments])) isTask session rfl error failed

/-! ### Unusable indexes -/

/-- An index that holds a value of no use is there. -/
theorem exists_foundAt_of_unusable {α : Type} {directory : Place} {use : Json → Except Error α}
    {error : Error} (unusable : (indexIn files directory project).bind use = .error error)
    (unreported : error.isReported = false) :
    ∃ node, foundAt files directory (pathOf project) = .ok (some node) := by
  unfold indexIn contentAt at unusable
  rw [lookupWritten_pathOf] at unusable
  split_ifs at unusable
  · cases unusable
    contradiction
  · cases looked : files.lookup directory (pathOf project) with
    | ok node => exact ⟨node, foundAt_of_lookup looked⟩
    | error fault =>
      rw [looked] at unusable
      cases unusable
      contradiction

theorem reportScan_of_unusable {error : Error} (unreported : error.isReported = false)
    (unusable : (indexIn session.files setting.host.workingDirectory project).bind (fun value =>
      (summaryIn (pathOf project) value).bind Report.scan) = .error error) :
    (reportScan project false setting session).1 = .error error := by
  rcases exists_foundAt_of_unusable unusable unreported with ⟨node, found⟩
  rw [run_reportScan_unforced, found]
  exact unusable

theorem lookupTable_of_unusable {error : Error} (forgotten : session.memory.tables = [])
    (unreported : error.isReported = false)
    (unusable : (indexIn session.files setting.host.workingDirectory project).bind tableIn =
      .error error) :
    (lookupTable project setting session).1 = .error error := by
  rcases exists_foundAt_of_unusable unusable unreported with ⟨node, found⟩
  have reads : (readTable (pathOf project) setting session).1 = .error error := by
    rw [run_readTable]
    exact unusable
  rw [run_lookupTable, found]
  cases node with
  | directory => exact reads
  | file content stamp =>
    rcases outcome : readTable (pathOf project) setting session with ⟨result, after⟩
    rw [outcome] at reads
    cases reads
    simp [remembered?, forgotten]

theorem analyze_of_unusable {className : Json} {error : Error}
    (forgotten : session.memory.tables = []) (unreported : error.isReported = false)
    (unusable : (indexIn session.files setting.host.workingDirectory project).bind tableIn =
      .error error) :
    (Analysis.analyze className project setting session).1 = .error error := by
  have looks := lookupTable_of_unusable forgotten unreported unusable
  have finds : (jarOf className project setting session).1 = .error error := by
    rw [run_jarOf, run_jarOf?, looks]
    rfl
  unfold Analysis.analyze
  rw [run_bind]
  rcases outcome : jarOf className project setting session with ⟨result, after⟩
  rw [outcome] at finds
  cases finds
  rfl

/-! ### Ends -/

/-- How a command ends that prints an answer. -/
inductive Ends (setting : Setting) (files : FileTree) (command : Command) (activity : Text) :
    Except Error Outcome → Prop
  | printed (output : Text) :
      Ends setting files command activity
        (.ok { status := 0, output, errors := [], served := false })
  | reported (output : Text) {error : Error} (isReported : error.isReported = true) :
      Ends setting files command activity
        (.ok { status := 1, output, errors := errorLine activity error, served := false })
  | escaped {error : Error} (isReported : error.isReported = false)
      (escapes : Escapes setting files command error) :
      Ends setting files command activity (.error error)

theorem run_of_firstError? (parsed : parse line = .ok command) (isTask : command.task? = some task) :
    ∃ output, (run line setting session).1 = outcomeOf task.activity output
      (firstError? (servicesOf setting) task.parts session.forget) := by
  rw [run_of_parse parsed]
  exact exists_outcome_of_task isTask (servicesOf setting) session.forget

theorem firstError?_cons {part : Action Text} {parts : List (Action Text)} {error : Error}
    (failed : (part setting session).1 = .error error) :
    firstError? setting (part :: parts) session = some error := by
  unfold firstError?
  rcases outcome : part setting session with ⟨result, after⟩
  rw [outcome] at failed
  cases failed
  rfl

/-- An error that is no part of the service leaves the program. -/
theorem run_of_unreported {error : Error} (parsed : parse line = .ok command)
    (isTask : command.task? = some task) (unreported : error.isReported = false)
    (failed : firstError? (servicesOf setting) task.parts session.forget = some error) :
    (run line setting session).1 = .error error := by
  rcases run_of_firstError? parsed isTask with ⟨output, ran⟩
  rw [ran, failed, outcomeOf, unreported]
  rfl

/-- A session at the start with an index file of the working directory that holds a text. -/
def indexSession (text : Text) : Session where
  files := ⟨[(["work"], .directory), (["work", fileName], .file (.text text) 1)]⟩
  clock := 2
  launches := []
  memory := .empty

end JarAtlas.CommandLine
