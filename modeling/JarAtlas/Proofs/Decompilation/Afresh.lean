import JarAtlas.Proofs.ClassIndex.LookupCache
import JarAtlas.Proofs.Decompilation.Extraction

/-!
# Sources made anew

Making a source looks for the decompiler, looks the class up, and works in the temporary directory.
The files are the same afterwards, and the answer is told by the decompiler that is found, the jar
that is found, and what that jar holds.
-/

namespace JarAtlas

open Action Files

namespace ClassIndex

variable {setting : Setting} {session later : Session} {project : Text}

theorem keeps_read {γ : Type} {view : Session → γ} (path : Path) : Keeps view (read path) := by
  intro setting session
  rw [run_read]

theorem keeps_lookupTable {γ : Type} {view : Session → γ}
    (forgetful : ∀ session tables,
      view { session with memory := { session.memory with tables } } = view session) (project : Text) :
    Keeps view (lookupTable project) := by
  have reads : Keeps view (readTable (pathOf project)) :=
    (keeps_read _).bind fun _ => .ofExcept _
  apply (keeps_find? _).bind
  intro found
  split
  · exact .fail _
  · exact reads
  · refine Keeps.bind (fun _ _ => rfl) fun memory => ?_
    split
    · exact .pure _
    · exact reads.bind fun table =>
        (Keeps.modify fun session => forgetful session _).bind fun _ => .pure _

theorem keeps_jarOf {γ : Type} {view : Session → γ}
    (forgetful : ∀ session tables,
      view { session with memory := { session.memory with tables } } = view session) (className : Json)
    (project : Text) : Keeps view (jarOf className project) := by
  refine Keeps.bind ?_ fun jar => ?_
  · apply (keeps_lookupTable forgetful project).bind
    exact fun table => (Keeps.ofExcept _).bind fun _ => .pure _
  · split
    · exact .pure _
    · exact .fail _

theorem keeps_classNames {γ : Type} {view : Session → γ}
    (forgetful : ∀ session tables,
      view { session with memory := { session.memory with tables } } = view session)
    (project : Text) : Keeps view (classNames project) := by
  apply (keeps_doesExist _).bind
  intro isThere
  split_ifs
  · exact (keeps_lookupTable forgetful project).bind fun _ => .pure _
  · exact .pure _

theorem run_jarOf (className : Json) : jarOf className project setting session =
    ((jarOf? className project setting session).1.bind fun jar =>
        match jar.filter Json.isTruthy with
        | some jar => .ok jar
        | none => .error (.unknownClass className.display),
      (jarOf? className project setting session).2) := by
  unfold jarOf
  rw [run_bind]
  rcases jarOf? className project setting session with ⟨result, after⟩
  cases result with
  | error error => rfl
  | ok jar =>
    simp only [Except.bind]
    cases jar.filter Json.isTruthy <;> rfl

/-- The jar of a class is told by the table. -/
theorem jarOf_congr (className : Json)
    (same : (lookupTable project setting later).1 = (lookupTable project setting session).1) :
    (jarOf className project setting later).1 = (jarOf className project setting session).1 := by
  simp only [run_jarOf, run_jarOf?, same]

/-- The jar of a class comes out of the table. -/
theorem exists_of_jarOf {className jar : Json}
    (found : (jarOf className project setting session).1 = .ok jar) :
    ∃ table, (lookupTable project setting session).1 = .ok table ∧
      ∃ entry ∈ table, entry.2 = jar := by
  rw [run_jarOf, run_jarOf?] at found
  dsimp only at found
  cases looked : (lookupTable project setting session).1 with
  | error error =>
    rw [looked] at found
    cases found
  | ok table =>
    rw [looked] at found
    refine ⟨table, rfl, ?_⟩
    cases isKey : keyOf className with
    | error error =>
      rw [isKey] at found
      cases found
    | ok key =>
      rw [isKey] at found
      change (match (jarIn? table key).filter Json.isTruthy with
        | some jar => (.ok jar : Except Error Json)
        | none => .error (.unknownClass className.display)) = .ok jar at found
      cases isJar : (jarIn? table key).filter Json.isTruthy with
      | none =>
        rw [isJar] at found
        cases found
      | some other =>
        rw [isJar] at found
        cases found
        have inTable := (Option.filter_eq_some_iff.mp isJar).1
        unfold jarIn? at inTable
        rcases Option.map_eq_some_iff.mp inTable with ⟨entry, isEntry, rfl⟩
        exact ⟨entry, List.mem_of_find?_eq_some isEntry, rfl⟩

/-- A project whose index can be looked up is a directory. -/
theorem exists_home_of_lookupTable {table : LookupTable}
    (looked : (lookupTable project setting session).1 = .ok table) :
    ∃ home, session.files.locate setting.host.workingDirectory (.ofText project) = .ok home ∧
      session.files.node? home = some .directory := by
  rw [run_lookupTable] at looked
  split at looked
  · cases looked
  · cases looked
  all_goals
    rename_i found
    rcases FileTree.exists_of_lookup (lookup_of_foundAt found) with ⟨place, located, -⟩
    exact FileTree.lookup_eq_directory_iff.mp (lookup_project_of_locate located)

end ClassIndex

namespace Tool

theorem keeps_findCfr {γ : Type} {view : Session → γ} : Keeps view findCfr := by
  have searches (directory : Path) : Keeps view (cfrIn directory) := by
    apply (keeps_isDirectory _).bind
    intro isThere
    cases isThere with
    | false => exact .pure _
    | true =>
      refine Keeps.bind ?_ fun _ => .pure _
      apply Keeps.host.bind
      intro host
      apply Keeps.get.bind
      intro session
      dsimp only
      split
      · exact .pure _
      · exact .pure _
  have searchesAll (directories : List Path) : Keeps view (cfrInAny directories) := by
    induction directories with
    | nil => exact .pure _
    | cons directory others ih =>
      apply (searches directory).bind
      intro found
      cases found with
      | some path => exact .pure _
      | none => exact ih
  refine Keeps.bind (fun _ _ => rfl) fun setting => ?_
  split
  · exact .pure _
  · apply (searchesAll _).bind
    intro found
    cases found with
    | some path => exact .pure _
    | none => exact .pure _

theorem given_eq_some {value : Option Text} {text : Text} (isGiven : given value = some text) :
    given (some text) = some text := by
  rw [given, Option.filter_eq_some_iff] at isGiven ⊢
  exact ⟨rfl, isGiven.2⟩

end Tool

namespace Decompilation

variable {setting : Setting} {session after : Session}

/-! ### The decompiler's jar -/

/-- What a new search for the decompiler answers. -/
def searched (setting : Setting) (session : Session) : Except Error Text :=
  (Tool.findCfr setting session).1.bind fun found =>
    match Tool.given found with
    | some path => .ok path
    | none => .error (.toolFailed "cfr"
        "CFR decompiler not found; put a cfr-*.jar in ./lib or set CFR_PATH")

/-- The decompiler that the service remembers. -/
def known (session : Session) : Option Text := Tool.given session.memory.cfr

/-- The session with the decompiler remembered. -/
def knowing (session : Session) (path : Text) : Session :=
  { session with memory := { session.memory with cfr := some path } }

theorem run_cfrJar (requested : Json) (setting : Setting) (session : Session) :
    cfrJar requested setting session =
      if requested.isTruthy then (.ok requested, session)
      else
        match known session with
        | some path => (.ok (.text path), session)
        | none =>
          match searched setting session with
          | .ok path => (.ok (.text path), knowing session path)
          | .error error => (.error error, session) := by
  unfold cfrJar known searched
  split_ifs
  · rfl
  · rw [run_bind, run_memory]
    dsimp only
    cases Tool.given session.memory.cfr with
    | some path => rfl
    | none =>
      have unchanged : (Tool.findCfr setting session).2 = session :=
        @Tool.keeps_findCfr Session id setting session
      dsimp only
      rw [run_bind]
      rcases search : Tool.findCfr setting session with ⟨result, after⟩
      rw [search] at unchanged
      cases unchanged
      cases result with
      | error error => rfl
      | ok found =>
        simp only [Except.bind]
        cases Tool.given found <;> rfl

theorem given_of_searched {path : Text} (found : searched setting session = .ok path) :
    Tool.given (some path) = some path := by
  unfold searched at found
  cases search : (Tool.findCfr setting session).1 with
  | error error =>
    rw [search] at found
    cases found
  | ok answer =>
    rw [search] at found
    simp only [Except.bind] at found
    split at found
    · rename_i isGiven
      cases found
      exact Tool.given_eq_some isGiven
    · cases found

/-- Looking for the decompiler's jar remembers nothing but the jar. -/
theorem keeps_cfrJar {γ : Type} {view : Session → γ}
    (forgetful : ∀ session cfr, view { session with memory := { session.memory with cfr } } =
      view session) (requested : Json) : Keeps view (cfrJar requested) := by
  intro setting session
  rw [run_cfrJar]
  split_ifs
  · rfl
  · cases known session with
    | some path => rfl
    | none =>
      cases searched setting session with
      | error error => rfl
      | ok path => exact forgetful session _

/-- With the same jar remembered and the same jar to be found, the answer is the same. -/
theorem cfrJar_congr {later : Session} (requested : Json)
    (remembered : later.memory.cfr = session.memory.cfr)
    (found : (Tool.findCfr setting later).1 = (Tool.findCfr setting session).1) :
    (cfrJar requested setting later).1 = (cfrJar requested setting session).1 := by
  have sameKnown : known later = known session := by rw [known, known, remembered]
  have sameSearch : searched setting later = searched setting session := by
    rw [searched, searched, found]
  rw [run_cfrJar, run_cfrJar, sameKnown, sameSearch]
  split_ifs
  · rfl
  · cases known session with
    | some path => rfl
    | none => cases searched setting session <;> rfl

/-- A search that fails leaves the session as it is. After one that answers, the answer stays as long
as the jar is remembered. -/
theorem cfrJar_settles {requested : Json} {result : Except Error Json}
    (ran : cfrJar requested setting session = (result, after)) :
    (∀ error, result = .error error → after = session) ∧
      ∀ jar, result = .ok jar → ∀ later : Session, later.memory.cfr = after.memory.cfr →
        cfrJar requested setting later = (.ok jar, later) := by
  rw [run_cfrJar] at ran
  split_ifs at ran with asked
  · cases ran
    refine ⟨by simp, ?_⟩
    rintro jar ⟨⟩ later -
    rw [run_cfrJar, if_pos asked]
  · have again {path : Text} {later : Session} (isKnown : known later = some path) :
        cfrJar requested setting later = (.ok (.text path), later) := by
      rw [run_cfrJar, if_neg asked, isKnown]
    cases isKnown : known session with
    | some path =>
      rw [isKnown] at ran
      cases ran
      refine ⟨by simp, ?_⟩
      rintro jar ⟨⟩ later same
      apply again
      rw [known, same]
      exact isKnown
    | none =>
      rw [isKnown] at ran
      dsimp only at ran
      cases search : searched setting session with
      | error error =>
        rw [search] at ran
        cases ran
        exact ⟨fun _ _ => rfl, by simp⟩
      | ok path =>
        rw [search] at ran
        cases ran
        refine ⟨by simp, ?_⟩
        rintro jar ⟨⟩ later same
        apply again
        rw [known, same]
        exact given_of_searched search

/-! ### Running the decompiler -/

theorem respects_decompileFile (file : Text) (cfr : Json) :
    Respects (ReadsAlike setting file) setting (decompileFile file cfr) := by
  unfold decompileFile
  split
  · apply Tool.respects_javaCommand.bind
    intro java
    apply Respects.config.bind
    intro config
    refine Respects.bind (Tool.respects_run ?_ (fun _ _ _ _ alike => alike) _ _) fun source => ?_
    · refine Respects.bind (respects_read file).attempt fun content => ?_
      split
      · exact .pure _
      · exact .pure _
    · split_ifs
      · exact .fail _
      · exact .pure _
  · exact .fail _

theorem keeps_decompileFile {γ : Type} {view : Session → γ}
    (unlogged : ∀ session launch, launch.directory = none →
      view { session with launches := session.launches ++ [launch] } = view session)
    (file : Text) (cfr : Json) : Keeps view (decompileFile file cfr) := by
  unfold decompileFile
  split
  · refine Keeps.bind ?_ fun java => ?_
    · apply Keeps.config.bind
      intro config
      cases Tool.given config.javaHome with
      | none => exact .pure _
      | some home => exact Keeps.host.bind fun _ => .pure _
    · apply Keeps.config.bind
      intro config
      apply (Tool.keeps_run unlogged _ _).bind
      intro source
      split_ifs
      · exact .fail _
      · exact .pure _
  · exact .fail _

/-- A source is never blank. -/
theorem isBlankText_of_run_decompileFile {file source : Text} {cfr : Json}
    (ran : decompileFile file cfr setting session = (.ok source, after)) :
    Text.isBlankText source = false := by
  unfold decompileFile at ran
  split at ran
  · rcases exists_of_run_bind ran with ⟨java, _, -, launches⟩
    rcases exists_of_run_bind launches with ⟨config, _, -, answers⟩
    rcases exists_of_run_bind answers with ⟨printed, _, -, checks⟩
    split_ifs at checks with blank
    · cases checks
    · cases checks
      exact Bool.eq_false_iff.mpr blank
  · cases ran

/-! ### Making a source -/

variable {className : JsonString} {project : Text} {cfr : Json}

/-- The part of a decompilation that goes on in the temporary directory. -/
def extractAndDecompile (jar cfr : Json) (className : JsonString) : Action Text :=
  withTemporary fun directory => do
    let file ← Archive.extractClass jar className directory
    decompileFile file.text cfr

theorem files_of_extractAndDecompile (scratch : IsScratch setting session.files)
    (relative : ¬ Path.IsRooted (ClassName.entryOf className).display) (jar : Json) :
    (extractAndDecompile jar cfr className setting session).2.files = session.files := by
  rcases (Archive.isBelow_join_entryOf (pathOf setting.host.temporaryDirectory)
    relative).exists_down with ⟨names, -, down, isTarget⟩
  have puts : Puts (FileTree.LeadsTo ((pathOf setting.host.temporaryDirectory).down names)) (do
      let file ← Archive.extractClass jar className (pathOf setting.host.temporaryDirectory)
      decompileFile file.text cfr) := by
    rw [← isTarget]
    apply (Archive.puts_extractClass jar className _).bind
    exact fun file => .of_keeps (keeps_decompileFile (fun _ _ _ => rfl) _ _)
  exact scratch.remove_of_puts down puts

theorem extractAndDecompile_congr {other : Session} {jar : Json}
    (scratch : IsScratch setting session.files) (otherScratch : IsScratch setting other.files)
    (relative : ¬ Path.IsRooted (ClassName.entryOf className).display)
    (jars : Archive.JarsAlike setting jar session other) :
    (extractAndDecompile jar cfr className setting other).1 =
      (extractAndDecompile jar cfr className setting session).1 := by
  rcases Archive.extractClass_congr scratch otherScratch relative jars with ⟨same, reads⟩
  unfold extractAndDecompile
  rw [run_withTemporary, run_withTemporary]
  dsimp only
  rw [run_bind, run_bind]
  rcases extracted : Archive.extractClass jar className (pathOf setting.host.temporaryDirectory)
    setting (withScratch setting session) with ⟨result, after⟩
  rcases otherExtracted : Archive.extractClass jar className
    (pathOf setting.host.temporaryDirectory) setting (withScratch setting other)
    with ⟨otherResult, otherAfter⟩
  rw [extracted, otherExtracted] at same reads
  cases same
  cases result with
  | error error => rfl
  | ok file => exact (respects_decompileFile file.text cfr _ _ (reads file rfl)).1

theorem decompileAfresh_eq (className : JsonString) (project : Text) (cfr : Json) :
    decompileAfresh className project cfr = (do
      let cfr ← cfrJar cfr
      let jar ← ClassIndex.jarOf (.string className) project
      extractAndDecompile jar cfr className) := rfl

/-- The search for the decompiler does not matter for which jar is found. -/
theorem jarOf_behind_cfrJar (className : JsonString) (project : Text) (cfr : Json)
    (setting : Setting) (session : Session) :
    (ClassIndex.jarOf (.string className) project setting (cfrJar cfr setting session).2).1 =
      (ClassIndex.jarOf (.string className) project setting session).1 := by
  have files : (cfrJar cfr setting session).2.files = session.files :=
    keeps_cfrJar (fun _ _ => rfl) cfr setting session
  have tables : (cfrJar cfr setting session).2.memory.tables = session.memory.tables :=
    @keeps_cfrJar _ (fun session => session.memory.tables) (fun _ _ => rfl) cfr setting session
  exact ClassIndex.jarOf_congr _ (ClassIndex.lookupTable_congr (by rw [files]) tables)

/-- Making a source leaves the files as they are, whether it answers or fails. -/
theorem files_of_decompileAfresh (scratch : IsScratch setting session.files)
    (relative : ¬ Path.IsRooted (ClassName.entryOf className).display) :
    (decompileAfresh className project cfr setting session).2.files = session.files := by
  rw [decompileAfresh_eq, run_bind]
  have searching : (cfrJar cfr setting session).2.files = session.files :=
    keeps_cfrJar (fun _ _ => rfl) cfr setting session
  generalize cfrJar cfr setting session = search at searching ⊢
  rcases search with ⟨result, found⟩
  cases result with
  | error error => exact searching
  | ok cfr =>
    dsimp only
    rw [run_bind]
    have looking : (ClassIndex.jarOf (.string className) project setting found).2.files =
        found.files := ClassIndex.keeps_jarOf (fun _ _ => rfl) _ _ setting found
    generalize ClassIndex.jarOf (.string className) project setting found = look at looking ⊢
    rcases look with ⟨result, looked⟩
    have same : looked.files = session.files := looking.trans searching
    cases result with
    | error error => exact same
    | ok jar => exact (files_of_extractAndDecompile (same ▸ scratch) relative jar).trans same

theorem exists_of_decompileAfresh {source : Text}
    (made : decompileAfresh className project cfr setting session = (.ok source, after)) :
    ∃ jar decompiler looked file extracted behind,
      (ClassIndex.jarOf (.string className) project setting session).1 = .ok jar ∧
        Archive.extractClass jar className (pathOf setting.host.temporaryDirectory) setting
          (withScratch setting looked) = (.ok file, extracted) ∧
        decompileFile file.text decompiler setting extracted = (.ok source, behind) := by
  rw [decompileAfresh_eq] at made
  rcases exists_of_run_bind made with ⟨decompiler, found, search, looks⟩
  rcases exists_of_run_bind looks with ⟨jar, looked, look, extracts⟩
  have finds := jarOf_behind_cfrJar className project cfr setting session
  rw [search, look] at finds
  unfold extractAndDecompile at extracts
  rw [run_withTemporary] at extracts
  rcases ran : (do
    let file ← Archive.extractClass jar className (pathOf setting.host.temporaryDirectory)
    decompileFile file.text decompiler) setting (withScratch setting looked) with ⟨result, behind⟩
  dsimp only at extracts
  rw [ran] at extracts
  cases extracts
  rcases exists_of_run_bind ran with ⟨file, extracted, extraction, decompiles⟩
  exact ⟨jar, decompiler, looked, file, extracted, behind, finds.symm, extraction, decompiles⟩

/-- A source that has been made is not blank, and the class is in the index. -/
theorem of_decompileAfresh {source : Text}
    (made : decompileAfresh className project cfr setting session = (.ok source, after)) :
    Text.isBlankText source = false ∧
      ∃ jar, (ClassIndex.jarOf (.string className) project setting session).1 = .ok jar := by
  rcases exists_of_decompileAfresh made with ⟨jar, _, _, _, _, _, found, _, decompiles⟩
  exact ⟨isBlankText_of_run_decompileFile decompiles, jar, found⟩

/-- The source is told by the decompiler that is found, the jar that is found, and what it holds. -/
theorem decompileAfresh_congr {other : Session} (scratch : IsScratch setting session.files)
    (otherScratch : IsScratch setting other.files)
    (relative : ¬ Path.IsRooted (ClassName.entryOf className).display)
    (decompilers : (cfrJar cfr setting other).1 = (cfrJar cfr setting session).1)
    (lookups : (ClassIndex.lookupTable project setting other).1 =
      (ClassIndex.lookupTable project setting session).1)
    (jars : ∀ jar, (ClassIndex.jarOf (.string className) project setting session).1 = .ok jar →
      Archive.JarsAlike setting jar session other) :
    (decompileAfresh className project cfr setting other).1 =
      (decompileAfresh className project cfr setting session).1 := by
  have finds := jarOf_behind_cfrJar className project cfr setting session
  have sameFinds := (jarOf_behind_cfrJar className project cfr setting other).trans
    ((ClassIndex.jarOf_congr (.string className) lookups).trans finds.symm)
  have files : (cfrJar cfr setting session).2.files = session.files :=
    keeps_cfrJar (fun _ _ => rfl) cfr setting session
  have otherFiles : (cfrJar cfr setting other).2.files = other.files :=
    keeps_cfrJar (fun _ _ => rfl) cfr setting other
  rw [decompileAfresh_eq, run_bind, run_bind]
  rcases search : cfrJar cfr setting session with ⟨result, found⟩
  rcases otherSearch : cfrJar cfr setting other with ⟨otherResult, otherFound⟩
  rw [search] at decompilers finds sameFinds files
  rw [otherSearch] at decompilers sameFinds otherFiles
  cases decompilers
  cases result with
  | error error => rfl
  | ok decompiler =>
    dsimp only
    have looking : (ClassIndex.jarOf (.string className) project setting found).2.files =
        found.files := ClassIndex.keeps_jarOf (fun _ _ => rfl) _ _ setting found
    have otherLooking : (ClassIndex.jarOf (.string className) project setting otherFound).2.files =
        otherFound.files := ClassIndex.keeps_jarOf (fun _ _ => rfl) _ _ setting otherFound
    rw [run_bind, run_bind]
    rcases look : ClassIndex.jarOf (.string className) project setting found with ⟨result, looked⟩
    rcases otherLook : ClassIndex.jarOf (.string className) project setting otherFound
      with ⟨otherResult, otherLooked⟩
    rw [look] at finds sameFinds looking
    rw [otherLook] at sameFinds otherLooking
    have same : looked.files = session.files := looking.trans files
    have otherSame : otherLooked.files = other.files := otherLooking.trans otherFiles
    cases sameFinds
    cases result with
    | error error => rfl
    | ok jar =>
      apply extractAndDecompile_congr (same ▸ scratch) (otherSame ▸ otherScratch) relative
      unfold Archive.JarsAlike ReadsAlike
      rw [same, otherSame]
      exact jars jar finds.symm

end Decompilation

end JarAtlas
