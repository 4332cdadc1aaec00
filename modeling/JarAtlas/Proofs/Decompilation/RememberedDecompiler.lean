import JarAtlas.Proofs.Decompilation.Batch
import JarAtlas.Proofs.Decompilation.SearchOrder

/-!
# The remembered decompiler

A service searches for the decompiler when a request needs one and names none. From the first search
that finds one, its path is the answer to all such requests, whatever has become of the files. A search
that fails is made again with the next request, and a path that a request names is used for that
request only.
-/

namespace JarAtlas

open Action Files ClassName

namespace Decompilation

variable {setting : Setting} {session : Session} {requested : Json}

/-! ### One request -/

/-- What is remembered stays, and otherwise it is what a request finds that names no decompiler. -/
theorem known_of_cfrJar : known (cfrJar requested setting session).2 =
    (known session).or
      (if requested.isTruthy then none else (searched setting session).toOption) := by
  rw [run_cfrJar]
  split_ifs
  · rw [Option.or_none]
  · cases isKnown : known session with
    | some path => exact isKnown
    | none =>
      rw [Option.none_or]
      dsimp only
      cases search : searched setting session with
      | error error => exact isKnown
      | ok path => exact given_of_searched search

/-! ### Runs -/

/-- Something that happens to a service: a request for the decompiler's path, the decompilation of a
class, or anything that leaves it alone, such as other services, tools and users. -/
inductive Event
  | request (cfr : Json)
  | decompile (className project : Text) (useCache : Bool) (cfr : Json)
  | elsewhere (other : Session)

/-- The session behind an event. -/
def Event.after (event : Event) (setting : Setting) (session : Session) : Session :=
  match event with
  | .request cfr => (cfrJar cfr setting session).2
  | .decompile className project useCache cfr =>
    (Decompilation.decompile className project useCache cfr setting session).2
  | .elsewhere other => { other with memory := { other.memory with cfr := session.memory.cfr } }

/-- The source of a class is made anew: it may not be a kept one, or there is none. -/
def isMadeAnew (className project : Text) (useCache : Bool) (setting : Setting)
    (session : Session) : Bool :=
  !useCache ||
    match foundAt session.files setting.host.workingDirectory
      (cachePath className (.ofText project)) with
    | .ok none => true
    | _ => false

/-- The request for a decompiler that an event comes with. -/
def Event.request? (event : Event) (setting : Setting) (session : Session) : Option Json :=
  match event with
  | .request cfr => some cfr
  | .decompile className project useCache cfr =>
    if isMadeAnew className project useCache setting session then some cfr else none
  | .elsewhere _ => none

/-- The path that an event finds when it names no decompiler but needs one. -/
def Event.finds (event : Event) (setting : Setting) (session : Session) : Option Text :=
  (event.request? setting session).bind fun cfr =>
    if cfr.isTruthy then none else (searched setting session).toOption

/-- The session behind all events of a run. -/
def reached (start : Session) (run : List (Setting × Event)) : Session :=
  run.foldl (fun session (setting, event) => event.after setting session) start

/-- The first path that is found along a run. -/
def firstFound (session : Session) : List (Setting × Event) → Option Text
  | [] => none
  | (setting, event) :: others =>
    (event.finds setting session).or (firstFound (event.after setting session) others)

section

variable {className project : Text} {useCache : Bool} {cfr : Json}

theorem cfr_of_decompileAfresh :
    (decompileAfresh (.text className) project cfr setting session).2.memory.cfr =
      (cfrJar cfr setting session).2.memory.cfr := by
  rcases ran : decompileAfresh (.text className) project cfr setting session with ⟨result, after⟩
  rcases memory_of_decompileAfresh ran
    with ⟨error, search, -, unchanged⟩ | ⟨decompiler, found, search, remembered⟩
  · rw [search, unchanged]
  · rw [search]
    dsimp only
    rw [remembered]
    exact @ClassIndex.keeps_jarOf _ (fun session => session.memory.cfr) (fun _ _ => rfl) _ _
      setting found

/-- A decompilation remembers a decompiler only where it makes a source. -/
theorem cfr_of_decompile : (decompile className project useCache cfr setting session).2.memory.cfr =
    if isMadeAnew className project useCache setting session then
      (cfrJar cfr setting session).2.memory.cfr
    else session.memory.cfr := by
  unfold isMadeAnew
  cases useCache with
  | false =>
    rw [decompile_of_not_useCache]
    exact cfr_of_decompileAfresh
  | true =>
    cases found : foundAt session.files setting.host.workingDirectory
        (cachePath className (.ofText project)) with
    | error error =>
      rw [run_decompile_of_refused found]
      rfl
    | ok node =>
      cases node with
      | some node =>
        rw [run_decompile_of_found found, run_readText]
        rfl
      | none =>
        have afresh : (decompileAfresh (.text className) project cfr setting session).2.memory.cfr =
            (cfrJar cfr setting session).2.memory.cfr := cfr_of_decompileAfresh
        rw [run_decompile_of_absent found]
        rcases made : decompileAfresh (.text className) project cfr setting session
          with ⟨result, fresh⟩
        rw [made] at afresh
        cases result with
        | error error => exact afresh
        | ok source =>
          have kept := @keeps_keepSource _ (fun session => session.memory.cfr) (fun _ _ _ => rfl)
            (cachePath className (.ofText project)) source setting fresh
          exact kept.trans afresh

end

/-- One event: what is remembered stays, and otherwise it is what the event finds. -/
theorem known_of_after (event : Event) :
    known (event.after setting session) = (known session).or (event.finds setting session) := by
  cases event with
  | request cfr => exact known_of_cfrJar
  | decompile className project useCache cfr =>
    have remembered : (Event.after (.decompile className project useCache cfr) setting
        session).memory.cfr = _ := cfr_of_decompile
    unfold known Event.finds Event.request?
    rw [remembered]
    dsimp only
    split_ifs
    · exact known_of_cfrJar
    · exact (Option.or_none).symm
  | elsewhere other => exact (Option.or_none).symm

/-- Along a run, what is remembered at first stays, and otherwise it is what is found first. -/
theorem known_of_reached (run : List (Setting × Event)) :
    known (reached session run) = (known session).or (firstFound session run) := by
  induction run generalizing session with
  | nil => exact (Option.or_none).symm
  | cons event others ih =>
    rcases event with ⟨setting, event⟩
    change known (reached (event.after setting session) others) = _
    rw [ih, known_of_after, Option.or_assoc, firstFound]

/-- A batch is a run of decompilations. -/
theorem reached_decompileAll (classNames : List Text) (project : Text) (useCache : Bool)
    (cfr : Json) (setting : Setting) (session : Session) :
    (decompileAll classNames project useCache cfr setting session).2 =
      reached session (classNames.map fun className =>
        (setting, .decompile className project useCache cfr)) := by
  have folds (sources : List (Text × Text)) (session : Session) :
      (classNames.foldlM (decompileInto project useCache cfr) sources setting session).2 =
        reached session (classNames.map fun className =>
          (setting, .decompile className project useCache cfr)) := by
    induction classNames generalizing sources session with
    | nil => rfl
    | cons className others ih =>
      rw [List.foldlM_cons, run_bind, run_decompileInto]
      exact ih _ _
  rw [decompileAll_eq]
  exact folds [] session

/-- A request that names a decompiler leaves no trace in a run. -/
theorem reached_of_named {named : Json} (isNamed : named.isTruthy = true) (other : Setting)
    (before behind : List (Setting × Event)) :
    reached session (before ++ (other, .request named) :: behind) =
      reached session (before ++ behind) := by
  unfold reached
  rw [List.foldl_append, List.foldl_cons, List.foldl_append]
  dsimp only
  rw [Event.after, run_cfrJar, if_pos isNamed]

/-! ### Search and memory -/

/-- A search that is not told where the decompiler is goes through the directories in order, and then
through the class path. Whatever happens to a service, a request that names a decompiler gets what it
names and leaves no trace; any other gets the first path that the service has found, or, as long as it
has found none, the answer of a new search. -/
theorem decompiler_searched_and_remembered (setting : Setting) (session start : Session)
    (run : List (Setting × Event)) (requested : Json) :
    (Tool.given setting.config.cfrPath = none →
      let here := pathOf setting.host.workingDirectory
      let program := pathOf setting.host.programRoot
      (Tool.findCfr setting session).2 = session ∧
      ∀ result, (Tool.findCfr setting session).1 = result ↔
        Tool.Discovers session.files setting.host.workingDirectory
          ([here.join "lib", here, program.join "lib", program] ++
            setting.config.extraCfrDirectories.map Path.ofText)
          (Text.pieces ':' setting.config.classpath) result) ∧
    (start.memory.cfr = none →
      let last := reached start run
      (requested.isTruthy →
        cfrJar requested setting last = (.ok requested, last) ∧
        ∀ before behind, reached start (before ++ (setting, .request requested) :: behind) =
          reached start (before ++ behind)) ∧
      (¬ requested.isTruthy →
        (∀ path, firstFound start run = some path →
          cfrJar requested setting last = (.ok (.text path), last)) ∧
        (firstFound start run = none →
          cfrJar requested setting last =
            match searched setting last with
            | .ok path => (.ok (.text path), knowing last path)
            | .error error => (.error error, last)))) := by
  constructor
  · intro noneGiven
    have unchanged : (Tool.findCfr setting session).2 = session :=
      @Tool.keeps_findCfr Session id setting session
    exact ⟨unchanged, fun _ => Tool.findCfr_eq_iff_discovers noneGiven⟩
  · intro fresh last
    have remembered : known last = firstFound start run := by
      have nothing : known start = none := by rw [known, fresh]; rfl
      rw [known_of_reached, nothing, Option.none_or]
    refine ⟨fun isNamed => ⟨?_, ?_⟩, fun unnamed => ⟨?_, ?_⟩⟩
    · rw [run_cfrJar, if_pos isNamed]
    · exact reached_of_named isNamed setting
    · intro path found
      rw [run_cfrJar, if_neg unnamed, remembered, found]
    · intro noneFound
      rw [run_cfrJar, if_neg unnamed, remembered, noneFound]
      rfl

/-- A working directory with two decompiler jars in its library directory. -/
def twoJars : FileTree :=
  ⟨[(["work"], .directory), (["work", "lib"], .directory),
    (["work", "lib", "cfr-0.9.jar"], .file (.text []) 1),
    (["work", "lib", "cfr-0.152.jar"], .file (.text []) 2)]⟩

/-- A service in that directory that has found nothing yet. -/
def twoJarsSession : Session :=
  { files := twoJars, clock := 3, launches := [], memory := .empty }

/-- A run in which the jars are gone after the first request for one. -/
def removedJars : List (Setting × Event) :=
  [(ClassIndex.workSetting, .request (.text "mine.jar")), (ClassIndex.workSetting, .request .null),
    (ClassIndex.workSetting, .elsewhere { twoJarsSession with files := .empty })]

/-- Of the two jars the one with the least name is found. -/
theorem discovers_twoJars : Tool.Discovers twoJars ["work"]
    (Tool.cfrDirectories ClassIndex.workSetting) [[]] (.ok (some "/work/lib/cfr-0.152.jar")) := by
  have located : twoJars.locate ["work"] (.ofText "/work/lib") = .ok ["work", "lib"] := by
    decide +kernel
  have first : Tool.IsFirstJar twoJars ["work"] (.ofText "/work/lib") "cfr-0.152.jar" :=
    { isThere := ⟨_, located, by decide, by decide⟩
      isJar := ⟨"0.152", [], by decide, by decide, .inl rfl⟩
      least := by
        intro other isThere _
        rw [Tool.holds_iff located (by decide)] at isThere
        have names : twoJars.names ["work", "lib"] = ["cfr-0.9.jar", "cfr-0.152.jar"] := by decide
        rw [names] at isThere
        apply Text.precedes_iff.mp
        rcases List.mem_pair.mp isThere with rfl | rfl
        · decide
        · decide }
  have split : Tool.cfrDirectories ClassIndex.workSetting =
      [] ++ .ofText "/work/lib" :: ["/work", "/lib", "/"].map fun written => .ofText written := by
    decide
  exact .inDirectory split (by simp) first

/-- The least name is found, and it is remembered when its file is gone. -/
theorem decompiler_searched_and_remembered_twoJars :
    (Tool.findCfr ClassIndex.workSetting twoJarsSession).1 =
      .ok (some "/work/lib/cfr-0.152.jar") ∧
    let last := reached twoJarsSession removedJars
    last.files = .empty ∧
      cfrJar .null ClassIndex.workSetting last = (.ok (.text "/work/lib/cfr-0.152.jar"), last) ∧
      cfrJar (.text "mine.jar") ClassIndex.workSetting last = (.ok (.text "mine.jar"), last) := by
  have laws := decompiler_searched_and_remembered ClassIndex.workSetting twoJarsSession
    twoJarsSession removedJars
  have found : (Tool.findCfr ClassIndex.workSetting twoJarsSession).1 =
      .ok (some "/work/lib/cfr-0.152.jar") := (((laws .null).1 rfl).2 _).mpr discovers_twoJars
  have second : Event.finds (.request .null) ClassIndex.workSetting twoJarsSession =
      some ("/work/lib/cfr-0.152.jar" : Text) := by
    change (searched ClassIndex.workSetting twoJarsSession).toOption = _
    rw [searched, found]
    rfl
  have first : firstFound twoJarsSession removedJars =
      some ("/work/lib/cfr-0.152.jar" : Text) := by
    change (Event.finds (.request .null) ClassIndex.workSetting twoJarsSession).or _ = _
    rw [second, Option.some_or]
  refine ⟨found, rfl, ?_, ?_⟩
  · exact (((laws .null).2 rfl).2 (by decide)).1 _ first
  · exact (((laws (.text "mine.jar")).2 rfl).1 (by decide)).1

/-- A name that is too long for a directory. -/
def longDirectory : Text := List.replicate 256 'L'

/-- A setting with a searched directory of that name, and a decompiler on the class path. -/
def longDirectorySetting : Setting :=
  { ClassIndex.workSetting with
    config := { Config.standard with
      classpath := "cfr.jar", extraCfrDirectories := [longDirectory] } }

/-- A service in a working directory that holds nothing. -/
def bareSession : Session :=
  { files := ⟨[(["work"], .directory)]⟩, clock := 0, launches := [], memory := .empty }

/-- A directory that cannot be there ends the search in front of the class path, which has a jar. -/
theorem findCfr_longDirectory :
    (Tool.findCfr longDirectorySetting bareSession).1 =
        .error (.file .nameTooLong longDirectory) ∧
      (∀ directory name, Tool.Holds bareSession.files ["work"] directory name →
        ¬ Tool.IsCfrName name) ∧
      Text.pieces ':' longDirectorySetting.config.classpath = ["cfr.jar"] ∧
      Tool.IsCfrEntry "cfr.jar" := by
  have noJar (directory : Path) (name : Text)
      (isThere : Tool.Holds bareSession.files ["work"] directory name) : ¬ Tool.IsCfrName name := by
    rcases isThere with ⟨place, -, -, isThere⟩
    rw [← FileTree.mem_names] at isThere
    have isWork : place = [] ∧ name = "work" := by
      simpa [bareSession, FileTree.names, eq_comm] using isThere
    rintro ⟨version, behind, same, -, -⟩
    rw [isWork.2] at same
    cases congrArg List.head? same
  refine ⟨?_, noJar, rfl, by decide, by decide⟩
  have split : Tool.cfrDirectories longDirectorySetting =
      Tool.cfrDirectories ClassIndex.workSetting ++ [.ofText longDirectory] := by decide +kernel
  have asked : ∀ directory ∈ Tool.cfrDirectories ClassIndex.workSetting,
      ¬ Refuses bareSession.files ["work"] directory := by decide +kernel
  have named : (Path.ofText longDirectory).text = longDirectory := by decide +kernel
  rw [Tool.findCfr_eq_iff_discovers rfl, ← named]
  exact .refused split (fun directory member => ⟨asked directory member, noJar directory⟩)
    (by decide +kernel)

end Decompilation

end JarAtlas
