import JarAtlas.Proofs.ClassIndex.FailedScans
import JarAtlas.Proofs.Server.Effects
import JarAtlas.Proofs.Server.FirstScan

/-!
# Indexes that stay

Unless it asks for a new index, a call of the server leaves every index file that is there, and runs
nothing in the project of that index: where the call finds the index, it reads it, and where it does
not, it comes to another place. The exception is a path that leads back up from a directory that is
missing. It leads nowhere when the call looks for the index, and to the index once the directories on
the way have been made.
-/

namespace JarAtlas

open Action Files

/-- The launch names a directory to run in, and it is the one that the project's path leads to. -/
def RunsIn (files : FileTree) (workingDirectory : Place) (project : Text) (launch : Launch) : Prop :=
  ∃ directory ∈ launch.directory, hasNull directory = false ∧
    files.locate workingDirectory (.ofText directory) = files.locate workingDirectory (.ofText project)

instance (files : FileTree) (workingDirectory : Place) (project : Text) (launch : Launch) :
    Decidable (RunsIn files workingDirectory project launch) :=
  inferInstanceAs (Decidable (∃ directory ∈ launch.directory, _))

/-- The launches of a session that name the directory of a project. -/
def launchesIn (files : FileTree) (workingDirectory : Place) (project : Text) (session : Session) :
    List Launch :=
  session.launches.filter (RunsIn files workingDirectory project)

section

variable {files : FileTree} {workingDirectory : Place} {project : Text} {launch : Launch}

theorem launchesIn_append (session : Session)
    (elsewhere : ¬ RunsIn files workingDirectory project launch) :
    launchesIn files workingDirectory project
        { session with launches := session.launches ++ [launch] } =
      launchesIn files workingDirectory project session := by
  simp [launchesIn, List.filter_append, elsewhere]

theorem not_runsIn_of_directory_eq_none (anywhere : launch.directory = none) :
    ¬ RunsIn files workingDirectory project launch := by
  rintro ⟨directory, isDirectory, -⟩
  rw [anywhere] at isDirectory
  cases isDirectory

end

namespace ClassIndex

variable {setting : Setting} {session after : Session} {project other : Text} {place home : Place}
  {content : Content} {stamp : Int}

/-! ### Indexes of other projects -/

/-- A build makes directories and then, if it comes so far, writes the index. -/
theorem exists_of_build {result : Except Error ScanSummary}
    (ran : build project setting session = (result, after)) :
    ∃ made : Session, FileTree.Grows setting.host.workingDirectory (fun _ node => node = .directory)
        session.files made.files ∧
      (after.files = made.files ∨ ∃ content stamp, made.files.write setting.host.workingDirectory
        (pathOf project) content stamp = .ok after.files) := by
  cases result with
  | error error =>
    rcases files_of_failing_build ran with same | onlyDirectories
    · exact ⟨session, .refl, .inl same⟩
    · exact ⟨after, onlyDirectories.grows, .inl rfl⟩
  | ok summary =>
    have listing : (dependencyJars project setting session).2.files = session.files :=
      keeps_dependencyJars (fun _ _ _ => rfl) setting session
    rcases exists_of_run_bind ran with ⟨jars, listed, lists, buildsFromJars⟩
    have reading : (jars.foldlM addClasses ⟨0, []⟩ setting listed).2.files = listed.files :=
      Keeps.foldlM keeps_addClasses jars ⟨0, []⟩ setting listed
    rcases exists_of_run_bind buildsFromJars with ⟨found, read, reads, buildsFromFound⟩
    rcases exists_of_run_bind buildsFromFound with ⟨⟨⟩, made, makes, buildsInPlace⟩
    rcases exists_of_run_bind buildsInPlace with ⟨host, _, ⟨⟩, buildsAtTime⟩
    rcases exists_of_run_bind buildsAtTime with ⟨⟨⟩, written, writes, ⟨⟩⟩
    have grows : FileTree.Grows setting.host.workingDirectory (fun _ node => node = .directory)
        read.files (ensureDirectories (pathOf project).parent setting read).2.files :=
      puts_ensureDirectories (fun _ _ => rfl) setting read
    rw [lists] at listing
    rw [reads] at reading
    rw [makes] at grows
    dsimp only at listing reading grows
    rw [reading, listing] at grows
    refine ⟨made, grows, ?_⟩
    rw [run_write] at writes
    split_ifs at writes
    · cases writes
    · split at writes
      · rename_i files written
        cases writes
        exact .inr ⟨_, _, written⟩
      · cases writes

/-- The project goes by a path on which no double dot leads back up from something that is missing. -/
def IsStraight (setting : Setting) (session : Session) (project : Text) : Prop :=
  session.files.IsStraight (FileTree.startOf setting.host.workingDirectory (.ofText project))
    (Path.ofText project).segments

/-- A build leaves the index files that are there, but for one that its own path has led to before. -/
theorem leaves_of_build {outside : Place → Prop} (straight : IsStraight setting session project)
    (unindexed : foundAt session.files setting.host.workingDirectory (pathOf project) = .ok none) :
    session.files.Leaves outside place (build project setting session).2.files := by
  rcases ran : build project setting session with ⟨result, after⟩
  rcases exists_of_build ran with ⟨made, grows, same | ⟨newContent, newStamp, written⟩⟩
  · rw [same]
    exact .of_grows (by simp) grows
  · have put : FileTree.Put setting.host.workingDirectory (fun path _ => path = pathOf project)
        made.files after.files := FileTree.put_of_write rfl written
    constructor
    · intro here _ stands
      exact put.keepsDirectories here (grows.keepsDirectories here stands)
    · intro content stamp _ hasFile
      refine (hasFile.grows (by simp) grows).put ?_ put
      rintro path _ _ rfl located
      have straightToIndex : session.files.IsStraight
          (FileTree.startOf setting.host.workingDirectory (pathOf project))
          (pathOf project).segments := straight.append_singleton (by decide)
      have isThere := hasFile.lookup_of_directories grows straightToIndex located
      rw [foundAt_of_lookup isThere] at unindexed
      cases unindexed

/-- A project where no index is found is not the one that an index file stands in. -/
theorem locate_project_ne (hasFile : session.files.HasFile (home ++ [fileName]) content stamp)
    (noNull : hasNull project = false)
    (unindexed : foundAt session.files setting.host.workingDirectory (pathOf project) = .ok none) :
    session.files.locate setting.host.workingDirectory (.ofText project) ≠ .ok home := by
  intro located
  have noNullInIndex : hasNull (pathOf project).text = false := by
    rw [hasNull_pathOf, hasNull_text, List.any_eq_false]
    intro segment isSegment inSegment
    have inProject : '\x00' ∈ project := by
      by_contra absent
      exact Path.not_mem_segmentsOf absent isSegment (List.contains_iff_mem.mp inSegment)
    rw [hasNull, List.contains_iff_mem.mpr inProject] at noNull
    cases noNull
  have isDirectory : session.files.node? home = some .directory :=
    hasFile.above home (List.prefix_append _ _) (by simp)
  by_cases long : FileTree.pathLimit < Text.byteCount (pathOf project).text
  · rw [foundAt_of_long long, noNullInIndex] at unindexed
    cases unindexed
  · have toIndex : session.files.locate setting.host.workingDirectory (pathOf project) =
        .ok (home ++ [fileName]) :=
      FileTree.locate_child (Nat.not_lt.mp long) located isDirectory (by decide) (by decide)
    have isThere : session.files.lookup setting.host.workingDirectory (pathOf project) =
        .ok (.file content stamp) := by
      rw [FileTree.lookup, toIndex]
      dsimp only
      rw [hasFile.stands]
    rw [foundAt_of_lookup isThere] at unindexed
    cases unindexed

end ClassIndex

namespace Server

variable {α β : Type} {setting : Setting} {session : Session} {project : Text}
  {workingDirectory home place : Place} {content : Content} {stamp : Int}

/-! ### One call -/

/-- What has happened has left all directories and a file at a place, and no tool was run in the
project's directory. -/
structure Undisturbed (setting : Setting) (place : Place) (project : Text) (before after : Session) :
    Prop where
  leaves : before.files.Leaves (fun here => ¬ setting.host.temporaryDirectory <+: here) place after.files
  launches : launchesIn before.files setting.host.workingDirectory project after =
    launchesIn before.files setting.host.workingDirectory project before

namespace Undisturbed

variable {action : Action α} {next : α → Action β}

theorem refl (session : Session) : Undisturbed setting place project session session :=
  ⟨.refl _, rfl⟩

/-- What never disturbs anything does not do so next. -/
theorem bind (first : Undisturbed setting place project session (action setting session).2)
    (spares : ∀ answer, Spares place (next answer))
    (keeps : ∀ answer,
      Keeps (launchesIn session.files setting.host.workingDirectory project) (next answer)) :
    Undisturbed setting place project session ((action >>= next) setting session).2 := by
  rw [run_bind]
  rcases ran : action setting session with ⟨result, between⟩
  rw [ran] at first
  cases result with
  | error error => exact first
  | ok answer =>
    exact
      { leaves := first.leaves.trans (spares answer setting between)
        launches := (keeps answer setting between).trans first.launches }

/-- A value that has been computed disturbs nothing. -/
theorem ofExcept_bind {result : Except Error α}
    (rest : ∀ answer, result = .ok answer →
      Undisturbed setting place project session (next answer setting session).2) :
    Undisturbed setting place project session ((Action.ofExcept result >>= next) setting session).2 := by
  rw [run_bind, run_ofExcept]
  cases result with
  | error error => exact .refl _
  | ok answer => exact rest answer rfl

end Undisturbed

/-- The project's index path leads to a file in the directory at `home`. -/
structure IsIndexed (workingDirectory : Place) (session : Session) (project : Text) (home : Place)
    (content : Content) (stamp : Int) : Prop where
  located : session.files.locate workingDirectory (ClassIndex.pathOf project) =
    .ok (home ++ [ClassIndex.fileName])
  hasFile : session.files.HasFile (home ++ [ClassIndex.fileName]) content stamp

namespace IsIndexed

theorem of_lookup (isTree : session.files.IsTree)
    (isThere : session.files.lookup workingDirectory (ClassIndex.pathOf project) =
      .ok (.file content stamp)) : ∃ home, IsIndexed workingDirectory session project home content stamp := by
  rcases FileTree.exists_of_lookup isThere with ⟨place, located, stands⟩
  have toIndex := located
  rw [ClassIndex.pathOf_eq] at toIndex
  rcases FileTree.exists_home_of_locate (by decide) toIndex with ⟨home, -, rfl⟩
  exact ⟨home, located, isTree.hasFile stands⟩

theorem locate_project (indexed : IsIndexed workingDirectory session project home content stamp) :
    session.files.locate workingDirectory (.ofText project) = .ok home := by
  have toIndex := indexed.located
  rw [ClassIndex.pathOf_eq] at toIndex
  rcases FileTree.exists_home_of_locate (by decide) toIndex with ⟨other, toProject, same⟩
  rw [(List.append_left_inj _).mp same]
  exact toProject

theorem lookup (indexed : IsIndexed workingDirectory session project home content stamp) :
    session.files.lookup workingDirectory (ClassIndex.pathOf project) =
      .ok (.file content stamp) := by
  rw [FileTree.lookup, indexed.located]
  dsimp only
  rw [indexed.hasFile.stands]

end IsIndexed

section

variable (indexed : IsIndexed setting.host.workingDirectory session project home content stamp)
include indexed

theorem undisturbed_scan {other : Text} (straight : ClassIndex.IsStraight setting session other) :
    Undisturbed setting (home ++ [ClassIndex.fileName]) project session
      (ClassIndex.scan other false setting session).2 := by
  rw [ClassIndex.run_scan_unforced]
  split
  · exact .refl _
  · rename_i unindexed
    refine ⟨ClassIndex.leaves_of_build straight unindexed, ?_⟩
    refine ClassIndex.keeps_build (fun before launch inOther => launchesIn_append before ?_)
      (fun _ _ _ => rfl) setting session
    rintro ⟨directory, isDirectory, noNull, same⟩
    cases inOther.symm.trans isDirectory
    exact ClassIndex.locate_project_ne indexed.hasFile noNull unindexed (same.trans indexed.locate_project)
  · exact .refl _

theorem undisturbed_ensureIndex {other : Json} (straight : ∀ name,
      Request.projectOf other = .ok name → ClassIndex.IsStraight setting session name) :
    Undisturbed setting (home ++ [ClassIndex.fileName]) project session
      (ensureIndex other setting session).2 := by
  rw [run_ensureIndex]
  cases isName : Request.projectOf other with
  | error error => exact .refl _
  | ok name =>
    dsimp only
    split
    · exact .refl _
    · exact .refl _
    · exact undisturbed_scan indexed (straight name isName)

theorem undisturbed_run {given : Arguments}
    (unforced : flagArgument given "forceRefresh" false = false)
    (straight : ∀ other name, requiredArgument given "projectPath" = .ok other →
      Request.projectOf other = .ok name → ClassIndex.IsStraight setting session name)
    (tool : Tool) :
    Undisturbed setting (home ++ [ClassIndex.fileName]) project session
      (run given tool setting session).2 := by
  have isIndex : (home ++ [ClassIndex.fileName]).getLast? = some ClassIndex.fileName :=
    List.getLast?_concat
  have unlogged (before : Session) (launch : Launch) (anywhere : launch.directory = none) :=
    @launchesIn_append session.files setting.host.workingDirectory project launch before
      (not_runsIn_of_directory_eq_none anywhere)
  cases tool with
  | scanDependencies =>
    refine .ofExcept_bind fun other isOther => ?_
    refine .bind ?_ (fun _ => .ofExcept _) fun _ => .ofExcept _
    refine .ofExcept_bind fun name isName => ?_
    rw [unforced]
    exact undisturbed_scan indexed (straight other name isOther isName)
  | decompileClass =>
    refine .ofExcept_bind fun className _ => ?_
    refine .ofExcept_bind fun other isOther => ?_
    refine (undisturbed_ensureIndex indexed fun name => straight other name isOther).bind
      (fun _ => ?_) fun _ => ?_
    · exact (Request.spares_decompile isIndex _ _ _ _).bind fun _ => .pure _
    · exact (Request.keeps_decompile unlogged (fun _ _ => rfl) (fun _ _ _ => rfl) _ _ _ _).bind
        fun _ => .pure _
  | analyzeClass =>
    refine .ofExcept_bind fun className _ => ?_
    refine .ofExcept_bind fun other isOther => ?_
    refine (undisturbed_ensureIndex indexed fun name => straight other name isOther).bind
      (fun _ => ?_) fun _ => ?_
    · exact (Request.spares_analyze _ _).bind fun _ => .pure _
    · exact (Request.keeps_analyze unlogged (fun _ _ => rfl) _ _).bind fun _ => .pure _

end

/-! ### Runs of calls -/

/-- A call of the server, with the setting that it runs in. -/
structure Call where
  setting : Setting
  toolName : Text
  given : Arguments

/-- The session that a call leaves. -/
def Call.leaves (session : Session) (call : Call) : Session :=
  (Server.call call.toolName call.given call.setting session).2

/-- The session that calls leave, one after the other. -/
def serve (session : Session) (calls : List Call) : Session := calls.foldl Call.leaves session

/-- The call does not ask for a new index, its temporary directory is new, and its project goes by a
path on which no double dot leads back up from something that is missing. -/
structure IsHarmless (workingDirectory : Place) (session : Session) (call : Call) : Prop where
  here : call.setting.host.workingDirectory = workingDirectory
  isNew : session.files.IsFree call.setting.host.temporaryDirectory
  unforced : flagArgument call.given "forceRefresh" false = false
  straight : ∀ project name, requiredArgument call.given "projectPath" = .ok project →
    Request.projectOf project = .ok name → ClassIndex.IsStraight call.setting session name

/-- A call whose project goes by a path without double dots never leads back up. -/
theorem IsHarmless.of_down {call : Call} {name : Text}
    (here : call.setting.host.workingDirectory = workingDirectory)
    (isNew : session.files.IsFree call.setting.host.temporaryDirectory)
    (unforced : flagArgument call.given "forceRefresh" false = false)
    (hasProject : requiredArgument call.given "projectPath" = .ok (.text name))
    (down : (".." : Text) ∉ (Path.ofText name).segments) :
    IsHarmless workingDirectory session call where
  here := here
  isNew := isNew
  unforced := unforced
  straight project other isProject isName := by
    cases hasProject.symm.trans isProject
    cases isName
    exact FileTree.isStraight_of_down down

theorem undisturbed_leaves {call : Call}
    (indexed : IsIndexed workingDirectory session project home content stamp)
    (harmless : IsHarmless workingDirectory session call) :
    Undisturbed call.setting (home ++ [ClassIndex.fileName]) project session (call.leaves session) := by
  have here := harmless.here
  subst here
  unfold Call.leaves Server.call
  cases Tool.ofName? call.toolName with
  | none => exact .refl _
  | some tool =>
    dsimp only
    rw [run_bind, run_attempt]
    dsimp only
    have undisturbed := undisturbed_run indexed harmless.unforced harmless.straight tool
    cases (run call.given tool call.setting session).1 <;> exact undisturbed

/-- A project stays indexed. -/
theorem IsIndexed.leaves {call : Call}
    (indexed : IsIndexed workingDirectory session project home content stamp)
    (harmless : IsHarmless workingDirectory session call) :
    IsIndexed workingDirectory (call.leaves session) project home content stamp := by
  have leaves := (undisturbed_leaves indexed harmless).leaves
  exact
    { located := (leaves.keepsDirectories harmless.isNew).locate indexed.located
      hasFile := leaves.hasFile_of_isFree harmless.isNew indexed.hasFile }

theorem IsIndexed.serve {calls : List Call}
    (indexed : IsIndexed workingDirectory session project home content stamp)
    (harmless : ∀ before call later, calls = before ++ call :: later →
      IsHarmless workingDirectory (serve session before) call) :
    IsIndexed workingDirectory (Server.serve session calls) project home content stamp := by
  induction calls using List.reverseRecOn with
  | nil => exact indexed
  | append_singleton calls last ih =>
    have indexedBefore := ih fun before call later split =>
      harmless before call (later ++ [last]) (by simp [split])
    unfold Server.serve
    rw [List.foldl_append]
    exact indexedBefore.leaves (harmless calls last [] rfl)

/-- Along a run, every call leaves the index and runs nothing in its project. -/
theorem lookup_of_serve {calls before later : List Call} {call : Call} (isTree : session.files.IsTree)
    (isThere : session.files.lookup workingDirectory (ClassIndex.pathOf project) =
      .ok (.file content stamp))
    (harmless : ∀ before call later, calls = before ++ call :: later →
      IsHarmless workingDirectory (serve session before) call)
    (split : calls = before ++ call :: later) :
    let found := serve session before
    let left := call.leaves found
    left.files.lookup workingDirectory (ClassIndex.pathOf project) = .ok (.file content stamp) ∧
      launchesIn found.files workingDirectory project left =
        launchesIn found.files workingDirectory project found := by
  rcases IsIndexed.of_lookup isTree isThere with ⟨home, indexed⟩
  have indexedHere : IsIndexed workingDirectory (serve session before) project home content stamp := by
    refine indexed.serve fun earlier other rest splitBefore => ?_
    apply harmless earlier other (rest ++ call :: later)
    rw [split, splitBefore]
    simp
  have harmlessHere := harmless before call later split
  refine ⟨(indexedHere.leaves harmlessHere).lookup, ?_⟩
  have same := (undisturbed_leaves indexedHere harmlessHere).launches
  rw [harmlessHere.here] at same
  exact same

/-- An index that is there stays as it is, and no tool is run in its project any more, in whatever
way the server is called as long as no call asks for a new index and no call goes to its project
back up from a directory that is missing. Where there is no index, a call that needs one behaves as
it does behind a call that scans its project, or it fails with the error of that scan. -/
theorem index_stays {session : Session} :
    (∀ {workingDirectory : Place} {project : Text} {content : Content} {stamp : Int}
        {calls : List Call}, session.files.IsTree →
      session.files.lookup workingDirectory (ClassIndex.pathOf project) = .ok (.file content stamp) →
      (∀ before call later, calls = before ++ call :: later →
        IsHarmless workingDirectory (serve session before) call) →
      ∀ before call later, calls = before ++ call :: later →
        let found := serve session before
        let left := call.leaves found
        left.files.lookup workingDirectory (ClassIndex.pathOf project) = .ok (.file content stamp) ∧
          launchesIn found.files workingDirectory project left =
            launchesIn found.files workingDirectory project found) ∧
      ∀ {setting : Setting} {tool : Tool} {given asked : Arguments} {className project : Json},
        tool ≠ .scanDependencies →
        requiredArgument given "className" = .ok className →
        requiredArgument given "projectPath" = .ok project →
        requiredArgument asked "projectPath" = .ok project →
        IsUnindexed setting session project →
        match run asked .scanDependencies setting session with
        | (.ok report, scanned) =>
          call Tool.scanDependencies.name asked setting session = (.ok report, scanned) ∧
            call tool.name given setting session = call tool.name given setting scanned
        | (.error error, scanned) =>
          call Tool.scanDependencies.name asked setting session =
              (.ok (Report.failure error.message Tool.scanDependencies.suggestions), scanned) ∧
            call tool.name given setting session =
              (.ok (Report.failure error.message tool.suggestions), scanned) := by
  exact ⟨fun isTree isThere harmless before call later split =>
    lookup_of_serve isTree isThere harmless split, call_of_unindexed⟩

/-- A project with an index beside one without. -/
def twoProjects : Session where
  files :=
    ⟨[(["work"], .directory), (["work", "p"], .directory),
      (["work", "p", ClassIndex.fileName], .file (.text "\x7b\"class_index\": []\x7d") 1),
      (["work", "q"], .directory)]⟩
  clock := 2
  launches := []
  memory := .empty

/-- A call for the analysis of a class. -/
def analysisIn (project : Text) : Call where
  setting := ClassIndex.jarlessSetting
  toolName := Tool.analyzeClass.name
  given := [("className", .text "a.B"), ("projectPath", .text project)]

/-- The index of a project stays while the one of its neighbour is built. -/
theorem index_stays_beside :
    let index : Node := .file (.text "\x7b\"class_index\": []\x7d") 1
    let before := [analysisIn "p"]
    let found := serve twoProjects before
    let left := (analysisIn "q").leaves found
    twoProjects.files.lookup ["work"] (ClassIndex.pathOf "p") = .ok index ∧
      left.files.lookup ["work"] (ClassIndex.pathOf "p") = .ok index ∧
      launchesIn found.files ["work"] "p" left = launchesIn found.files ["work"] "p" found ∧
      left.launches.map Launch.directory = [some ("q" : Text)] ∧
      IsUnindexed ClassIndex.jarlessSetting twoProjects (.text "q") ∧
      ∃ report scanned,
        call Tool.scanDependencies.name [("projectPath", .text "q")] ClassIndex.jarlessSetting
          twoProjects = (.ok report, scanned) ∧
        call Tool.analyzeClass.name (analysisIn "q").given ClassIndex.jarlessSetting twoProjects =
          call Tool.analyzeClass.name (analysisIn "q").given ClassIndex.jarlessSetting scanned := by
  intro index before found left
  have isThere : twoProjects.files.lookup ["work"] (ClassIndex.pathOf "p") = .ok index := by
    decide +kernel
  have isTree : twoProjects.files.IsTree := by decide +kernel
  have harmless : ∀ earlier call later, before ++ [analysisIn "q"] = earlier ++ call :: later →
      IsHarmless ["work"] (serve twoProjects earlier) call := by
    intro earlier call later split
    rcases earlier with _ | ⟨first, _ | ⟨second, rest⟩⟩
    · cases split
      exact .of_down rfl (by decide +kernel) rfl rfl (by decide +kernel)
    · cases split
      exact .of_down rfl (by decide +kernel) rfl rfl (by decide +kernel)
    · simp [before] at split
  have unindexed : IsUnindexed ClassIndex.jarlessSetting twoProjects (.text "q") := by
    rintro name ⟨⟩ node isIndex
    have nothing : twoProjects.files.lookup ["work"] (ClassIndex.pathOf "q") = .error .missing := by
      decide +kernel
    cases nothing.symm.trans isIndex
  have stays := index_stays.1 isTree isThere harmless before (analysisIn "q") [] rfl
  have scans := @(@index_stays twoProjects).2 ClassIndex.jarlessSetting .analyzeClass
    (analysisIn "q").given [("projectPath", .text "q")] (.text "a.B") (.text "q") (by decide) rfl rfl
    rfl unindexed
  have answers : (run [("projectPath", .text "q")] .scanDependencies ClassIndex.jarlessSetting
      twoProjects).1.isOk = true := by decide +kernel
  refine ⟨isThere, stays.1, stays.2, by decide +kernel, unindexed, ?_⟩
  rcases scan : run [("projectPath", .text "q")] .scanDependencies ClassIndex.jarlessSetting
    twoProjects with ⟨result, scanned⟩
  rw [scan] at scans answers
  cases result with
  | error error => cases answers
  | ok report => exact ⟨report, scanned, scans⟩

/-- A call that goes to a project back up from a directory that is missing finds no index there,
makes the directory, and replaces the index. -/
theorem index_replaced_behind_detour :
    let index : Node := .file (.text "\x7b\"class_index\": []\x7d") 1
    let detour := analysisIn "x/../p"
    let left := detour.leaves twoProjects
    flagArgument detour.given "forceRefresh" false = false ∧
      twoProjects.files.lookup ["work"] (ClassIndex.pathOf "p") = .ok index ∧
      left.files.lookup ["work"] (ClassIndex.pathOf "p") ≠ .ok index ∧
      left.files.locate ["work"] (ClassIndex.pathOf "x/../p") =
        left.files.locate ["work"] (ClassIndex.pathOf "p") ∧
      left.launches.map Launch.directory = [some ("x/../p" : Text)] := by
  decide +kernel

end Server

end JarAtlas
