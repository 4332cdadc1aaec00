import JarAtlas.Proofs.ClassIndex.Indexing
import JarAtlas.Proofs.ClassIndex.LookupCache
import JarAtlas.Proofs.Files.Failures
import JarAtlas.Proofs.Server.FirstScan

/-!
# How scans and lookups fail

What can come out of launching and finding tools, of a scan, and of a lookup: errors that are part of
the service, paths that are too long, files in the way of the index, and an index file whose value is
not what it is used for.
-/

namespace JarAtlas

open Action Files

variable {setting : Setting} {kind : Error → Prop}

namespace Tool

theorem fails_launch (command : List Text) (timeout : Binary64) (directory : Option Text) :
    Fails setting kind (launch command timeout directory) := by
  have asks : Fails setting kind (inputOf command) := by
    unfold inputOf
    split
    · split_ifs
      · apply (FailsWith.attempt _).andThen
        intro content
        split <;> exact .pure _
      · exact .pure _
    · exact .pure _
  apply asks.andThen
  exact fun input => .of_answers fun session => ⟨_, rfl⟩

theorem fails_run (covers : CoversCommon kind) (command : List Text) (timeout : Binary64)
    (directory : Option Text) : Fails setting kind (run command timeout directory) := by
  apply (fails_launch _ _ _).andThen
  intro result
  apply FailsWith.ofExcept
  intro error failed
  apply covers.reported
  unfold outputOf at failed
  split at failed
  · split_ifs at failed
    all_goals
      cases failed
      rfl
  all_goals
    cases failed
    rfl

theorem fails_javapCommand (covers : CoversCommon kind) : Fails setting kind javapCommand := by
  apply FailsWith.host_bind
  apply FailsWith.config_bind
  split
  · exact .pure _
  · split_ifs
    · exact .pure _
    · apply FailsWith.andThen
      · apply (fails_launch _ _ _).andThen
        intro result
        split <;> exact .pure _
      · intro home
        split
        · exact .pure _
        · apply (fails_doesExist (covers.long _)).andThen
          intro isThere
          split_ifs
          · exact .pure _
          · apply (fails_doesExist (covers.long _)).andThen
            intro isAbove
            split_ifs <;> exact .pure _

theorem fails_mavenCommand : Fails setting kind mavenCommand := by
  apply FailsWith.host_bind
  apply FailsWith.config_bind
  split <;> exact .pure _

end Tool

namespace ClassIndex

/-! ### Scans -/

/-- The kind has the errors that keep a scan from a new index. -/
structure CoversBuilds (setting : Setting) (project : Text) (kind : Error → Prop) : Prop
    extends CoversCommon kind where
  homeless : setting.config.repository? setting.host.environment = none → kind .homeUnknown
  null : kind .nullInPath
  blocked : ∀ error, Blocks (pathOf project) error → kind error

section

variable {project : Text} (covers : CoversBuilds setting project kind)

include covers

theorem fails_repository : Fails setting kind repository := by
  apply FailsWith.config_bind
  apply FailsWith.host_bind
  split
  · exact .pure _
  · rename_i nowhere
    exact .fail (covers.homeless nowhere)

omit covers in
theorem fails_addDependency (covers : CoversCommon kind) (repository : Path) (jars : List Text)
    (line : Text) : Fails setting kind (addDependency repository jars line) := by
  unfold addDependency
  split
  · exact .pure _
  · apply (fails_doesExist (covers.long _)).andThen
    intro isThere
    split_ifs <;> exact .pure _

omit covers in
theorem pathLimit_lt_of_longPath? {files : FileTree} {repository path : Path} {place : Place}
    (found : longPath? files repository place = some path) :
    FileTree.pathLimit < Text.byteCount path.text := by
  rcases List.exists_of_findSome?_eq_some found with ⟨⟨names, node⟩, -, isLong⟩
  simp only [Option.ite_none_right_eq_some, Bool.and_eq_true, decide_eq_true_eq,
    Option.some.injEq] at isLong
  rcases isLong with ⟨⟨-, long⟩, rfl⟩
  exact long

theorem fails_repositoryJars : Fails setting kind repositoryJars := by
  apply (fails_repository covers).andThen
  intro repository
  apply (fails_isDirectory (covers.long _)).andThen
  intro isThere
  split_ifs
  · apply FailsWith.host_bind
    refine FailsWith.andThen (.of_answers fun session => ⟨_, rfl⟩) fun session => ?_
    dsimp only
    split
    · exact .pure _
    · split
      · rename_i path isLong
        exact .fail (covers.long _ (.inl (pathLimit_lt_of_longPath? isLong)))
      · exact .pure _
  · exact .fail (covers.reported _ rfl)

theorem fails_dependencyJars : Fails setting kind (dependencyJars project) := by
  apply Tool.fails_mavenCommand.andThen
  intro command
  apply FailsWith.config_bind
  apply (FailsWith.attempt _).andThen
  intro output
  cases output with
  | error error => exact fails_repositoryJars covers
  | ok output =>
    apply (fails_repository covers).andThen
    intro repository
    exact .foldlM (fails_addDependency covers.toCoversCommon repository) (fun _ _ _ _ => rfl) _ _

/-- A jar that cannot be read is passed over, unless its path cannot even be asked for. -/
theorem fails_addClasses (found : Found) (jar : Text) :
    Fails setting kind (addClasses found jar) := by
  have lists : Fails setting (fun error => error.isUnreadableJar = true ∨ error = .nullInPath)
      (Archive.listClasses (.text jar)) :=
    (Archive.fails_entriesOf (fun _ => .inl) fun _ => .inr rfl).andThen fun _ => .pure _
  apply lists.attempt_bind fun _ _ => rfl
  · intro names
    exact .pure _
  · rintro error (unreadable | rfl)
    · dsimp only
      rw [if_pos unreadable]
      exact .pure _
    · exact .fail covers.null

theorem fails_build : Fails setting kind (build project) := by
  apply (fails_dependencyJars covers).andThen
  intro jars
  apply (FailsWith.foldlM (fails_addClasses covers) (fun _ _ _ _ => rfl) jars _).andThen
  intro found
  refine FailsWith.andThen ((fails_ensureDirectories _).mono fun error blocks =>
    covers.blocked error blocks.of_parent) fun _ => ?_
  apply FailsWith.host_bind
  exact ((fails_write _ _).mono covers.blocked).andThen fun _ => .pure _

end

/-- The value in a project's index file. -/
def indexIn (files : FileTree) (directory : Place) (project : Text) : Except Error Json :=
  valueOf (pathOf project) (contentAt files directory (pathOf project).text)

section

variable {files : FileTree} {project : Text}

/-- The report of a scan. -/
def reportScan (project : Text) (force : Bool) : Action Text := do
  Action.ofExcept (Report.scan (← scan project force))

/-- The report of a new index fails like its build. -/
theorem fails_reportBuild (covers : CoversBuilds setting project kind) :
    Fails setting kind (do Action.ofExcept (Report.scan (← build project))) := by
  refine (fails_build covers).andThen_of_answer fun session summary _ built => ?_
  have ran : build project setting session = (.ok summary, (build project setting session).2) :=
    Prod.ext built rfl
  rcases exists_of_run_build ran with ⟨_, found, _, _, -, -, rfl, -⟩
  apply FailsWith.of_answers
  intro session
  rw [run_ofExcept]
  exact Report.exists_scan_summaryOf (pathOf project) found.jars found.entries

theorem run_reportScan_unforced {session : Session} : (reportScan project false setting session).1 =
    match foundAt session.files setting.host.workingDirectory (pathOf project) with
    | .error error => .error error
    | .ok none => ((do Action.ofExcept (Report.scan (← build project)) : Action Text)
        setting session).1
    | .ok (some _) => (indexIn session.files setting.host.workingDirectory project).bind fun value =>
        (summaryIn (pathOf project) value).bind Report.scan := by
  unfold reportScan
  rw [run_bind, run_scan_unforced, run_bind]
  cases foundAt session.files setting.host.workingDirectory (pathOf project) with
  | error error => rfl
  | ok node =>
    cases node with
    | none => rfl
    | some node =>
      unfold indexIn
      cases valueOf (pathOf project) _ with
      | error error => rfl
      | ok value =>
        dsimp only [Except.bind]
        cases summaryIn (pathOf project) value with
        | error error => rfl
        | ok summary => exact congrArg Prod.fst (run_ofExcept _ _ _)

theorem run_reportScan_forced {session : Session} : (reportScan project true setting session).1 =
    match foundAt session.files setting.host.workingDirectory (pathOf project) with
    | .ok (some _) => ((do unlink (pathOf project); reportScan project false) setting session).1
    | _ => (reportScan project false setting session).1 := by
  unfold reportScan
  rw [run_bind, run_scan_forced, run_bind (unlink _)]
  cases foundAt session.files setting.host.workingDirectory (pathOf project) with
  | error error =>
    dsimp only
    rw [run_bind]
  | ok node =>
    cases node with
    | none =>
      dsimp only
      rw [run_bind]
    | some node =>
      dsimp only
      rw [run_bind]
      rcases unlink (pathOf project) setting session with ⟨result, between⟩
      cases result with
      | error error => rfl
      | ok _ =>
        dsimp only
        rw [run_bind]

theorem fails_reportScan_unforced (covers : CoversBuilds setting project kind)
    (unusable : (∃ node, foundAt files setting.host.workingDirectory (pathOf project) =
        .ok (some node)) → ∀ error,
      (indexIn files setting.host.workingDirectory project).bind (fun value =>
        (summaryIn (pathOf project) value).bind Report.scan) = .error error → kind error) :
    FailsWith setting Session.files files kind (reportScan project false) := by
  constructor
  rintro session rfl error failed
  rw [run_reportScan_unforced] at failed
  split at failed
  · rename_i refused
    cases failed
    rcases isTooLong_of_foundAt refused with ⟨isLong, rfl⟩
    exact covers.long _ isLong
  · exact (fails_reportBuild covers).isKind session rfl error failed
  · rename_i node found
    exact unusable ⟨node, found⟩ error failed

/-- A new index is built behind the removal of the one that is there, so it does not matter what that
one holds. -/
theorem fails_reportScan_forced (covers : CoversBuilds setting project kind) :
    Fails setting kind (reportScan project true) := by
  constructor
  intro session _ error failed
  have unindexed (later : Session) (failed : (reportScan project false setting later).1 = .error error)
      (nothing : ¬ ∃ node, foundAt later.files setting.host.workingDirectory (pathOf project) =
        .ok (some node)) : kind error :=
    (fails_reportScan_unforced covers fun there => absurd there nothing).isKind later rfl error
      failed
  rw [run_reportScan_forced] at failed
  split at failed
  · rw [run_bind] at failed
    rcases removed : unlink (pathOf project) setting session with ⟨result, between⟩
    rw [removed] at failed
    cases result with
    | error refusal =>
      cases failed
      apply covers.blocked
      exact (fails_change _ _).isKind session rfl _ (congrArg Prod.fst removed)
    | ok _ =>
      apply unindexed between failed
      simp [foundAt_of_run_unlink removed]
  · rename_i nothing
    exact unindexed session failed fun ⟨node, found⟩ => nothing node found

/-! ### Lookups -/

/-- The kind has the errors that keep a class from being looked up. -/
structure CoversLookups (setting : Setting) (files : FileTree) (project : Text)
    (kind : Error → Prop) : Prop extends CoversCommon kind where
  unusable : ∀ error,
    (indexIn files setting.host.workingDirectory project).bind tableIn = .error error → kind error

variable (covers : CoversLookups setting files project kind)

include covers

theorem fails_lookupTable :
    FailsWith setting Session.files files kind (lookupTable project) := by
  constructor
  rintro session rfl error failed
  have reads (failed : (readTable (pathOf project) setting session).1 = .error error) :
      kind error := by
    rw [run_readTable] at failed
    exact covers.unusable error failed
  rw [run_lookupTable] at failed
  split at failed
  · rename_i refused
    cases failed
    rcases isTooLong_of_foundAt refused with ⟨isLong, rfl⟩
    exact covers.long _ isLong
  · cases failed
    exact covers.reported _ rfl
  · exact reads failed
  · split at failed
    · contradiction
    · split at failed
      · contradiction
      · rename_i read
        apply reads
        rw [read]
        exact failed

theorem fails_jarOf {className : Json}
    (unhashable : ∀ error, keyOf className = .error error → kind error) :
    FailsWith setting Session.files files kind (jarOf className project) := by
  refine FailsWith.andThen ?_ fun jar => ?_
  · apply (fails_lookupTable covers).andThen
    intro table
    exact (FailsWith.ofExcept unhashable).andThen fun _ => .pure _
  · split
    · exact .pure _
    · exact .fail (covers.reported _ rfl)

theorem fails_classNames : FailsWith setting Session.files files kind (classNames project) := by
  apply (FailsWith.of_fails (fails_doesExist (covers.long _))).bind (keeps_doesExist _)
  intro isThere
  split_ifs
  · exact (fails_lookupTable covers).andThen fun _ => .pure _
  · exact .pure _

end

end ClassIndex

end JarAtlas
