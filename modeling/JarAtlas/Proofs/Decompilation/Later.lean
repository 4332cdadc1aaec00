import JarAtlas.Proofs.Analysis.Agreement
import JarAtlas.Proofs.Decompilation.KeptTrees
import JarAtlas.Proofs.Text.Lines

/-!
# Decompilations one after another

What decompilations leave to later ones of the same project: the decompiler that has been found, the
table of the index, and kept sources. None of it changes what a later decompilation answers, but where
the source of its own class has been kept, whose line breaks are then alike, and where a name is too
long and directories above it are new.
-/

namespace JarAtlas

open Action Files ClassName

namespace Decompilation

variable {setting : Setting} {session later after fresh : Session} {className project : Text}
  {cfr : Json}

/-! ### What is remembered -/

theorem keeps_extractAndDecompile {α : Type} {view : Session → α}
    (unlogged : ∀ session launch, launch.directory = none →
      view { session with launches := session.launches ++ [launch] } = view session)
    (unfiled : ∀ session files clock, view { session with files, clock } = view session)
    (jar cfr : Json) (className : JsonString) :
    Keeps view (extractAndDecompile jar cfr className) := by
  have extracts (directory : Path) : Keeps view (Archive.extractClass jar className directory) := by
    have makes : Keeps view (Archive.ensureDirectoryOf (entryOf className)
        (directory.join (entryOf className).display)) := by
      unfold Archive.ensureDirectoryOf
      dsimp only
      split
      · exact .fail _
      · exact keeps_ensureDirectoriesBelow unfiled _ _
    apply makes.bind
    intro _
    apply (Archive.keeps_readEntry _ _).bind
    intro content
    exact (keeps_write unfiled _ _).bind fun _ => .pure _
  apply keeps_withTemporary unfiled
  exact fun directory => (extracts directory).bind fun file => keeps_decompileFile unlogged _ _

theorem keeps_keepSource {α : Type} {view : Session → α}
    (unfiled : ∀ session files clock, view { session with files, clock } = view session)
    (cache : Path) (source : Text) : Keeps view (keepSource cache source) :=
  (keeps_ensureDirectoriesBelow unfiled _ _).bind fun _ => keeps_write unfiled _ _

/-- A source that is made leaves what the search for the decompiler and the lookup of the class
remember. Where no decompiler is found, nothing happens. -/
theorem memory_of_decompileAfresh {result : Except Error Text}
    (ran : decompileAfresh (.text className) project cfr setting session = (result, after)) :
    (∃ error, cfrJar cfr setting session = (.error error, session) ∧ result = .error error ∧
      after = session) ∨
    ∃ decompiler found, cfrJar cfr setting session = (.ok decompiler, found) ∧
      after.memory =
        (ClassIndex.jarOf (.string (.text className)) project setting found).2.memory := by
  rw [decompileAfresh_eq, run_bind] at ran
  rcases search : cfrJar cfr setting session with ⟨answer, found⟩
  rw [search] at ran
  cases answer with
  | error error =>
    cases ran
    have unchanged := (cfrJar_settles search).1 error rfl
    exact .inl ⟨error, by rw [unchanged], rfl, unchanged⟩
  | ok decompiler =>
    refine .inr ⟨decompiler, found, rfl, ?_⟩
    dsimp only at ran
    rw [run_bind] at ran
    rcases look : ClassIndex.jarOf (.string (.text className)) project setting found
      with ⟨answer, looked⟩
    rw [look] at ran
    cases answer with
    | error error =>
      cases ran
      rfl
    | ok jar =>
      have kept := @keeps_extractAndDecompile _ Session.memory (fun _ _ _ => rfl) (fun _ _ _ => rfl)
        jar decompiler (.text className) setting looked
      dsimp only at ran
      rw [ran] at kept
      exact kept

/-- After a source has been made, the decompiler and the table of the index are found as before. -/
theorem answers_of_decompileAfresh {result : Except Error Text}
    (ran : decompileAfresh (.text className) project cfr setting session = (result, fresh))
    (memory : later.memory = fresh.memory)
    (index : foundAt later.files setting.host.workingDirectory (ClassIndex.pathOf project) =
      foundAt session.files setting.host.workingDirectory (ClassIndex.pathOf project))
    (unfailed : (∃ error, result = .error error) → later = fresh) :
    (cfrJar cfr setting later).1 = (cfrJar cfr setting session).1 ∧
      (ClassIndex.lookupTable project setting later).1 =
        (ClassIndex.lookupTable project setting session).1 := by
  rcases memory_of_decompileAfresh ran
    with ⟨error, -, failed, unchanged⟩ | ⟨decompiler, found, search, remembered⟩
  · rw [unfailed ⟨error, failed⟩, unchanged]
    exact ⟨rfl, rfl⟩
  · have foundFiles : found.files = session.files := by
      have kept := @keeps_cfrJar _ Session.files (fun _ _ => rfl) cfr setting session
      rwa [search] at kept
    have foundTables : found.memory.tables = session.memory.tables := by
      have kept := @keeps_cfrJar _ (fun session => session.memory.tables) (fun _ _ => rfl) cfr
        setting session
      rwa [search] at kept
    have lookedCfr : (ClassIndex.jarOf (.string (.text className)) project setting
        found).2.memory.cfr = found.memory.cfr :=
      @ClassIndex.keeps_jarOf _ (fun session => session.memory.cfr) (fun _ _ => rfl) _ _ setting found
    have lookedFiles : (ClassIndex.jarOf (.string (.text className)) project setting found).2.files =
        found.files := ClassIndex.keeps_jarOf (fun _ _ => rfl) _ _ setting found
    rw [← memory] at remembered
    constructor
    · rw [(cfrJar_settles search).2 decompiler rfl later (by rw [remembered, lookedCfr]), search]
    · have again : Analysis.Agrees setting project found
          (ClassIndex.jarOf (.string (.text className)) project setting found).2 :=
        (Analysis.repeats_jarOf _).leads found
      calc
        (ClassIndex.lookupTable project setting later).1 =
            (ClassIndex.lookupTable project setting
              (ClassIndex.jarOf (.string (.text className)) project setting found).2).1 :=
          ClassIndex.lookupTable_congr (by rw [index, lookedFiles, foundFiles]) (by rw [remembered])
        _ = (ClassIndex.lookupTable project setting found).1 := again.table
        _ = (ClassIndex.lookupTable project setting session).1 :=
          ClassIndex.lookupTable_congr (by rw [foundFiles]) foundTables

/-! ### Kept sources -/

/-- What a kept source is read as is told by what its path leads to. -/
theorem contentAt_cachePath {files : FileTree} {workingDirectory : Place} :
    contentAt files workingDirectory (cachePath className (.ofText project)).text =
      if hasNull (cachePath className (.ofText project)).text then .error .nullInPath
      else
        match files.lookup workingDirectory (cachePath className (.ofText project)) with
        | .ok (.file content _) => .ok content
        | .ok .directory =>
          .error (.file .isDirectory (cachePath className (.ofText project)).text)
        | .error fault => .error (.file fault (cachePath className (.ofText project)).text) := by
  have nonempty : (cachePath className (.ofText project)).segments ≠ [] := by
    rcases exists_segments_cachePath className (.ofText project) with ⟨above, name, ends⟩
    simp [ends]
  have same := (isPlain_cachePath (Path.isPlain_ofText project) className).lookupWritten_text nonempty
    files workingDirectory
  cases found : files.lookup workingDirectory (cachePath className (.ofText project)) with
  | error fault => simp only [contentAt, same, found]
  | ok node => cases node <;> simp only [contentAt, same, found]

theorem contentAt_cachePath_eq_ok_iff {content : Content} :
    contentAt session.files setting.host.workingDirectory (cachePath className (.ofText project)).text =
        .ok content ↔
      hasNull (cachePath className (.ofText project)).text = false ∧ ∃ stamp,
        session.files.lookup setting.host.workingDirectory (cachePath className (.ofText project)) =
          .ok (.file content stamp) := by
  rw [contentAt_cachePath]
  constructor
  · intro read
    split_ifs at read with null
    refine ⟨Bool.eq_false_iff.mpr null, ?_⟩
    split at read
    · rename_i stamp isThere
      cases read
      exact ⟨stamp, isThere⟩
    all_goals cases read
  · rintro ⟨noNull, stamp, isThere⟩
    rw [noNull, isThere]
    rfl

theorem readText_congr
    (same : later.files.lookup setting.host.workingDirectory (cachePath className (.ofText project)) =
      session.files.lookup setting.host.workingDirectory (cachePath className (.ofText project))) :
    (readText (cachePath className (.ofText project)) setting later).1 =
      (readText (cachePath className (.ofText project)) setting session).1 := by
  rw [run_readText, run_readText, contentAt_cachePath, contentAt_cachePath, same]

/-- A source that is kept is answered with its line breaks made alike. -/
theorem run_decompile_of_kept {content : Content} {stamp : Int}
    (isThere : session.files.lookup setting.host.workingDirectory
      (cachePath className (.ofText project)) = .ok (.file content stamp))
    (noNull : hasNull (cachePath className (.ofText project)).text = false) :
    decompile className project true cfr setting session = (.ok (textOf content), session) := by
  rw [run_decompile_of_found (foundAt_of_lookup isThere), run_readText,
    contentAt_cachePath_eq_ok_iff.mpr ⟨noNull, stamp, isThere⟩]
  rfl

theorem unifyBreaks_textOf (content : Content) : Text.unifyBreaks (textOf content) = textOf content := by
  cases content with
  | text value => exact Text.unifyBreaks_unifyBreaks value
  | archive entries => rfl

/-- A source that has been read from its file is one that is kept. -/
theorem exists_content_of_readText {source : Text}
    (read : (readText (cachePath className (.ofText project)) setting session).1 = .ok source) :
    ∃ content stamp,
      session.files.lookup setting.host.workingDirectory (cachePath className (.ofText project)) =
          .ok (.file content stamp) ∧
        hasNull (cachePath className (.ofText project)).text = false ∧ source = textOf content := by
  rw [run_readText] at read
  cases kept : contentAt session.files setting.host.workingDirectory
      (cachePath className (.ofText project)).text with
  | error error =>
    rw [kept] at read
    cases read
  | ok content =>
    rw [kept] at read
    cases read
    rcases contentAt_cachePath_eq_ok_iff.mp kept with ⟨noNull, stamp, isThere⟩
    exact ⟨content, stamp, isThere, noNull, rfl⟩

/-! ### Later sessions -/

/-- The source of a class is not kept in the temporary directory. -/
def IsApart (setting : Setting) (session : Session) (className project : Text) : Prop :=
  ∀ home, session.files.locate setting.host.workingDirectory (.ofText project) = .ok home →
    ¬ setting.host.temporaryDirectory <+: home ++ keptNames className

instance : Decidable (IsApart setting session className project) :=
  inferInstanceAs (Decidable (∀ home, session.files.locate setting.host.workingDirectory
    (.ofText project) = .ok home → ¬ _ <+: home ++ keptNames className))

/-- The source of a class can be made, and it is made by one of the decompilations. -/
def IsMade (setting : Setting) (project : Text) (cfr : Json) (start : Session) (classNames : List Text)
    (className : Text) : Prop :=
  className ∈ classNames ∧
    ∃ source, (decompile className project true cfr setting start).1 = .ok source

/-- The session is one that decompilations of classes of the project have led to. -/
structure Follows (setting : Setting) (project : Text) (cfr : Json) (start : Session)
    (classNames : List Text) (later : Session) : Prop where
  isTree : later.files.IsTree
  isFree : later.files.IsFree setting.host.temporaryDirectory
  decompiler : (cfrJar cfr setting later).1 = (cfrJar cfr setting start).1
  table : (ClassIndex.lookupTable project setting later).1 =
    (ClassIndex.lookupTable project setting start).1
  files : later.files = start.files ∨ ∃ home,
    start.files.locate setting.host.workingDirectory (.ofText project) = .ok home ∧
      start.files.node? home = some .directory ∧
      FileTree.KeepsSources home (IsMade setting project cfr start classNames) start.files later.files
  kept : ∀ className ∈ classNames, ∀ source,
    (decompile className project true cfr setting start).1 = .ok source → ∃ content stamp,
      later.files.lookup setting.host.workingDirectory (cachePath className (.ofText project)) =
          .ok (.file content stamp) ∧
        hasNull (cachePath className (.ofText project)).text = false ∧
        textOf content = Text.unifyBreaks source

namespace Follows

variable {start : Session} {classNames : List Text}

theorem refl (isTree : start.files.IsTree)
    (isFree : start.files.IsFree setting.host.temporaryDirectory) :
    Follows setting project cfr start [] start where
  isTree
  isFree
  decompiler := rfl
  table := rfl
  files := .inl rfl
  kept := by simp

theorem keepsDirectories (follows : Follows setting project cfr start classNames later) :
    start.files.KeepsDirectories later.files := by
  rcases follows.files with same | ⟨home, -, -, keeps⟩
  · rw [same]
    exact .refl _
  · exact keeps.keepsDirectories

theorem scratch (follows : Follows setting project cfr start classNames later)
    (scratch : IsScratch setting start.files) : IsScratch setting later.files :=
  scratch.of_keepsDirectories follows.keepsDirectories follows.isFree

theorem decompileAfresh_eq (follows : Follows setting project cfr start classNames later)
    (named : IsNamed className) (scratch : IsScratch setting start.files)
    (outside : JarsOutside setting start project) :
    (decompileAfresh (.text className) project cfr setting later).1 =
      (decompileAfresh (.text className) project cfr setting start).1 := by
  apply decompileAfresh_congr scratch (follows.scratch scratch) named.not_isRooted_entry
    follows.decompiler follows.table
  intro jar found
  rcases ClassIndex.exists_of_jarOf found with ⟨table, looked, -⟩
  rcases ClassIndex.exists_home_of_lookupTable looked with ⟨home, located, -⟩
  apply outside.jarsAlike located _ found
  intro place apart
  rcases follows.files with same | ⟨otherHome, otherLocated, -, keeps⟩
  · rw [same]
  · cases located.symm.trans otherLocated
    exact keeps.elsewhere apart

/-- The source of a class that has not been made by the decompilations is found as it was, or one of its
names turns out to be too long. -/
theorem foundAt (follows : Follows setting project cfr start classNames later)
    (named : IsNamed className) (isTree : start.files.IsTree)
    (unmade : ¬ IsMade setting project cfr start classNames className) :
    let cache := cachePath className (.ofText project)
    Files.foundAt later.files setting.host.workingDirectory cache =
        Files.foundAt start.files setting.host.workingDirectory cache ∨
      Files.foundAt start.files setting.host.workingDirectory cache = .ok none ∧
        Files.foundAt later.files setting.host.workingDirectory cache =
          .error (.file .nameTooLong cache.text) ∧
        ∃ name ∈ keptNames className, FileTree.nameLimit < Text.byteCount name := by
  intro cache
  rcases follows.files with same | ⟨home, located, -, keeps⟩
  · rw [same]
    exact .inl rfl
  · have found := keeps.foundAt isTree located unmade
    rw [← named.cachePath_eq] at found
    exact found

theorem exists_home {table : LookupTable}
    (follows : Follows setting project cfr start classNames later)
    (looked : (ClassIndex.lookupTable project setting later).1 = .ok table) :
    ∃ home, start.files.locate setting.host.workingDirectory (.ofText project) = .ok home ∧
      start.files.node? home = some .directory ∧
      FileTree.KeepsSources home (IsMade setting project cfr start classNames) start.files
        later.files := by
  rw [follows.table] at looked
  rcases ClassIndex.exists_home_of_lookupTable looked with ⟨home, located, stands⟩
  rcases follows.files with same | inHome
  · exact ⟨home, located, stands, .of_eq same⟩
  · exact inHome

/-- Making a source leads to a later session. -/
theorem afresh {result : Except Error Text}
    (follows : Follows setting project cfr start classNames later)
    (scratch : IsScratch setting start.files) (named : IsNamed className)
    (ran : decompileAfresh (.text className) project cfr setting later = (result, fresh)) :
    fresh.files = later.files ∧ Follows setting project cfr start classNames fresh := by
  have files : (decompileAfresh (.text className) project cfr setting later).2.files =
      later.files := files_of_decompileAfresh (follows.scratch scratch) named.not_isRooted_entry
  rw [ran] at files
  dsimp only at files
  rcases answers_of_decompileAfresh ran rfl (by rw [files]) fun _ => rfl with ⟨decompilers, tables⟩
  refine ⟨files, ?_⟩
  exact
    { isTree := files ▸ follows.isTree
      isFree := files ▸ follows.isFree
      decompiler := decompilers.trans follows.decompiler
      table := tables.trans follows.table
      files := files ▸ follows.files
      kept := files ▸ follows.kept }

/-- Keeping a source that has been made leads to a later session, too. -/
theorem keep {source : Text} {result : Except Error Unit}
    (follows : Follows setting project cfr start classNames later)
    (scratch : IsScratch setting start.files) (named : IsNamed className)
    (apart : IsApart setting start className project)
    (absent : Files.foundAt later.files setting.host.workingDirectory
      (cachePath className (.ofText project)) = .ok none)
    (made : decompileAfresh (.text className) project cfr setting later = (.ok source, fresh))
    (kept : keepSource (cachePath className (.ofText project)) source setting fresh =
      (result, after))
    (same : (decompile className project true cfr setting start).1 = result.map fun _ => source) :
    Follows setting project cfr start (classNames ++ [className]) after := by
  rcases follows.afresh scratch named made with ⟨files, followsFresh⟩
  rcases (of_decompileAfresh made).2 with ⟨jar, found⟩
  rcases ClassIndex.exists_of_jarOf found with ⟨table, looked, -⟩
  rcases follows.exists_home looked with ⟨home, startLocated, startStands, keeps⟩
  have located := keeps.keepsDirectories.locate startLocated
  have stands := keeps.stays startStands
  have writable := isWritable_of_decompileAfresh named made
  rw [← files] at keeps located stands absent
  have grows := puts_keepSource (cachePath className (.ofText project)) source setting fresh
  have adds := keepsSources_of_keepSource named writable located absent followsFresh.isTree stands
    kept
  have keepsMore : FileTree.KeepsSources home
      (IsMade setting project cfr start (classNames ++ [className])) start.files after.files := by
    apply (keeps.trans adds).mono
    rintro other (⟨isOne, isMade⟩ | ⟨rfl, rfl⟩)
    · exact ⟨List.mem_append_left _ isOne, isMade⟩
    · exact ⟨List.mem_concat_self, source, same⟩
  have memory : after.memory = fresh.memory := by
    have kept' := @keeps_keepSource _ Session.memory (fun _ _ _ => rfl)
      (cachePath className (.ofText project)) source setting fresh
    rwa [kept] at kept'
  have index : Files.foundAt after.files setting.host.workingDirectory (ClassIndex.pathOf project) =
      Files.foundAt later.files setting.host.workingDirectory (ClassIndex.pathOf project) := by
    rw [← files, adds.foundAt_pathOf located stands]
  rcases answers_of_decompileAfresh made memory index (by simp) with ⟨decompilers, tables⟩
  rw [kept, named.cachePath_eq] at grows
  exact
    { isTree := grows.isTree located stands (not_mem_keptNames className) followsFresh.isTree
      isFree := grows.isFree located stands (not_mem_keptNames className) followsFresh.isFree
        (apart home startLocated)
      decompiler := decompilers.trans follows.decompiler
      table := tables.trans follows.table
      files := .inr ⟨home, startLocated, startStands, keepsMore⟩
      kept := by
        intro other isOne alone answered
        rcases List.mem_append.mp isOne with isOther | isThis
        · rcases followsFresh.kept other isOther alone answered
            with ⟨content, stamp, isThere, noNull, isText⟩
          exact ⟨content, stamp, adds.lookup_stays isThere, noNull, isText⟩
        · rw [List.mem_singleton.mp isThis] at answered ⊢
          rw [same] at answered
          cases result with
          | error error => cases answered
          | ok answer =>
            cases answered
            rcases lookup_of_keepSource kept with ⟨noNull, stamp, isThere⟩
            exact ⟨_, stamp, isThere, noNull, rfl⟩ }

/-- A class that is not made, or whose source is kept already, may be counted among those of the
decompilations. -/
theorem more (follows : Follows setting project cfr start classNames later)
    (kept : ∀ source, (decompile className project true cfr setting start).1 = .ok source →
      ∃ content stamp,
        later.files.lookup setting.host.workingDirectory (cachePath className (.ofText project)) =
            .ok (.file content stamp) ∧
          hasNull (cachePath className (.ofText project)).text = false ∧
          textOf content = Text.unifyBreaks source) :
    Follows setting project cfr start (classNames ++ [className]) later where
  isTree := follows.isTree
  isFree := follows.isFree
  decompiler := follows.decompiler
  table := follows.table
  files := by
    rcases follows.files with same | ⟨home, located, stands, keeps⟩
    · exact .inl same
    · refine .inr ⟨home, located, stands, keeps.mono fun other isMade => ?_⟩
      exact ⟨List.mem_append_left _ isMade.1, isMade.2⟩
  kept := by
    intro other isOne source answered
    rcases List.mem_append.mp isOne with isOther | isThis
    · exact follows.kept other isOther source answered
    · rw [List.mem_singleton.mp isThis] at answered ⊢
      exact kept source answered

end Follows

/-! ### Answers -/

/-- What a decompilation answers behind others, by what it would answer alone. With kept sources, the
line breaks of a repeated one are alike, and a name that is too long may be noticed before the error. -/
inductive Answers (className project : Text) (useCache isRepeated : Bool) :
    Except Error Text → Except Error Text → Prop
  | source (alone : Text) : Answers className project useCache isRepeated (.ok alone)
      (.ok (if useCache = true ∧ isRepeated = true then Text.unifyBreaks alone else alone))
  | error (error : Error) : Answers className project useCache isRepeated (.error error) (.error error)
  | longName (error : Error) (keeps : useCache = true)
      (isLong : ∃ name ∈ keptNames className, FileTree.nameLimit < Text.byteCount name) :
      Answers className project useCache isRepeated (.error error)
        (.error (.file .nameTooLong (cachePath className (.ofText project)).text))

/-- No source is made of a class with a name that is too long to be kept. -/
theorem exists_error_of_long (named : IsNamed className)
    (absent : foundAt session.files setting.host.workingDirectory
      (cachePath className (.ofText project)) = .ok none)
    (isLong : ∃ name ∈ keptNames className, FileTree.nameLimit < Text.byteCount name) :
    ∃ error, (decompile className project true cfr setting session).1 = .error error := by
  rw [run_decompile_of_absent absent]
  rcases makes : decompileAfresh (.text className) project cfr setting session with ⟨made, fresh⟩
  cases made with
  | error error => exact ⟨error, rfl⟩
  | ok source =>
    rcases isLong with ⟨name, isName, long⟩
    exact absurd (isWritable_of_decompileAfresh named makes name isName).1 (Nat.not_le.mpr long)

theorem Answers.of_unrepeated {useCache isRepeated : Bool} {alone : Except Error Text}
    (unrepeated : ∀ source, alone = .ok source → ¬ (useCache = true ∧ isRepeated = true)) :
    Answers className project useCache isRepeated alone alone := by
  cases alone with
  | error error => exact .error error
  | ok source =>
    have answers : Answers className project useCache isRepeated (.ok source) _ := .source source
    rwa [if_neg (unrepeated source rfl)] at answers

namespace Follows

variable {start : Session} {classNames : List Text} {answer : Except Error Text}

/-- Without kept sources, a decompilation answers what it would answer alone. -/
theorem answers_not_useCache (follows : Follows setting project cfr start classNames later)
    (scratch : IsScratch setting start.files) (outside : JarsOutside setting start project)
    (named : IsNamed className)
    (ran : decompile className project false cfr setting later = (answer, after)) :
    Follows setting project cfr start classNames after ∧
      answer = (decompile className project false cfr setting start).1 := by
  rw [decompile_of_not_useCache] at ran ⊢
  have same := follows.decompileAfresh_eq named scratch outside
  rw [ran] at same
  exact ⟨(follows.afresh scratch named ran).2, same⟩

/-- A source that is made and kept is what it would be alone. -/
theorem answers_making (follows : Follows setting project cfr start classNames later)
    (isTree : start.files.IsTree) (scratch : IsScratch setting start.files)
    (outside : JarsOutside setting start project) (named : IsNamed className)
    (apart : IsApart setting start className project)
    (startAbsent : Files.foundAt start.files setting.host.workingDirectory
      (cachePath className (.ofText project)) = .ok none)
    (absent : Files.foundAt later.files setting.host.workingDirectory
      (cachePath className (.ofText project)) = .ok none)
    (ran : decompile className project true cfr setting later = (answer, after)) :
    Follows setting project cfr start (classNames ++ [className]) after ∧
      answer = (decompile className project true cfr setting start).1 := by
  have sameAfresh := follows.decompileAfresh_eq named scratch outside
  have alone : decompile className project true cfr setting start = _ :=
    run_decompile_of_absent startAbsent
  rw [run_decompile_of_absent absent] at ran
  rcases makes : decompileAfresh (.text className) project cfr setting later with ⟨made, fresh⟩
  rcases startMakes : decompileAfresh (.text className) project cfr setting start
    with ⟨startMade, startFresh⟩
  rw [makes, startMakes] at sameAfresh
  rw [makes] at ran
  rw [startMakes] at alone
  cases sameAfresh
  cases made with
  | error error =>
    dsimp only at alone ran
    cases ran
    rw [alone]
    refine ⟨(follows.afresh scratch named makes).2.more ?_, rfl⟩
    simp [alone]
  | ok source =>
    dsimp only at alone ran
    have writable := isWritable_of_decompileAfresh named makes
    have files := (follows.afresh scratch named makes).1
    have startFiles : (decompileAfresh (.text className) project cfr setting start).2.files =
        start.files := files_of_decompileAfresh scratch named.not_isRooted_entry
    rw [startMakes] at startFiles
    dsimp only at startFiles
    rcases (of_decompileAfresh makes).2 with ⟨jar, found⟩
    rcases ClassIndex.exists_of_jarOf found with ⟨table, looked, -⟩
    rcases follows.exists_home looked with ⟨home, located, stands, keeps⟩
    rcases kept : keepSource (cachePath className (.ofText project)) source setting fresh
      with ⟨outcome, behind⟩
    have sameOutcome : (keepSource (cachePath className (.ofText project)) source setting fresh).1 =
        (keepSource (cachePath className (.ofText project)) source setting startFresh).1 := by
      rw [← startFiles] at located stands isTree keeps startAbsent
      rw [← files] at keeps absent
      exact keepSource_congr named writable located stands isTree (files ▸ follows.isTree) keeps
        startAbsent absent
    rw [kept] at ran sameOutcome
    cases ran
    have same : (decompile className project true cfr setting start).1 =
        outcome.map fun _ => source := by
      rw [alone, ← sameOutcome]
    exact ⟨follows.keep scratch named apart absent makes kept same, same.symm⟩

/-- A class that has been made before is answered from its source, up to the line breaks. -/
theorem answers_made (follows : Follows setting project cfr start classNames later)
    (isMade : IsMade setting project cfr start classNames className)
    (ran : decompile className project true cfr setting later = (answer, after)) :
    Follows setting project cfr start (classNames ++ [className]) after ∧
      Answers className project true (className ∈ classNames)
        (decompile className project true cfr setting start).1 answer := by
  rcases isMade with ⟨isOne, source, answered⟩
  rcases follows.kept className isOne source answered with ⟨content, stamp, isThere, noNull, isText⟩
  rw [run_decompile_of_kept isThere noNull] at ran
  cases ran
  rw [answered, isText]
  have answers : Answers className project true (className ∈ classNames) (.ok source) _ :=
    .source source
  rw [if_pos ⟨rfl, decide_eq_true isOne⟩] at answers
  refine ⟨follows.more fun other same => ?_, answers⟩
  cases answered.symm.trans same
  exact ⟨content, stamp, isThere, noNull, isText⟩

/-- A class that had its source from the beginning is answered from it. -/
theorem answers_found {node : Node} (follows : Follows setting project cfr start classNames later)
    (startFound : Files.foundAt start.files setting.host.workingDirectory
      (cachePath className (.ofText project)) = .ok (some node))
    (found : Files.foundAt later.files setting.host.workingDirectory
      (cachePath className (.ofText project)) = .ok (some node))
    (ran : decompile className project true cfr setting later = (answer, after)) :
    Follows setting project cfr start (classNames ++ [className]) after ∧
      answer = (decompile className project true cfr setting start).1 := by
  have sameText := readText_congr
    ((lookup_of_foundAt found).trans (lookup_of_foundAt startFound).symm)
  have alone := @run_decompile_of_found setting start className project cfr node startFound
  have unchanged : (readText (cachePath className (.ofText project)) setting later).2 = later := by
    rw [run_readText]
  rw [run_decompile_of_found found] at ran
  rw [ran] at sameText unchanged
  subst unchanged
  rw [alone, ← sameText]
  refine ⟨follows.more fun source answered => ?_, rfl⟩
  rw [alone, ← sameText] at answered
  rcases exists_content_of_readText (ran ▸ answered) with ⟨content, stamp, isThere, noNull, isText⟩
  exact ⟨content, stamp, isThere, noNull, by rw [isText, unifyBreaks_textOf]⟩

/-- With kept sources, a decompilation answers what it would answer alone, up to its line breaks if its
class has been made before, and up to a name that is too long. -/
theorem answers_useCache (follows : Follows setting project cfr start classNames later)
    (isTree : start.files.IsTree) (scratch : IsScratch setting start.files)
    (outside : JarsOutside setting start project) (named : IsNamed className)
    (apart : IsApart setting start className project)
    (ran : decompile className project true cfr setting later = (answer, after)) :
    Follows setting project cfr start (classNames ++ [className]) after ∧
      Answers className project true (className ∈ classNames)
        (decompile className project true cfr setting start).1 answer := by
  by_cases isMade : IsMade setting project cfr start classNames className
  · exact follows.answers_made isMade ran
  · have unrepeated {source : Text}
        (answered : (decompile className project true cfr setting start).1 = .ok source) :
        className ∉ classNames := fun isOne => isMade ⟨isOne, source, answered⟩
    rcases follows.foundAt named isTree isMade with same | ⟨startAbsent, tooLong, isLong⟩
    · suffices unchanged : Follows setting project cfr start (classNames ++ [className]) after ∧
          answer = (decompile className project true cfr setting start).1 by
        refine ⟨unchanged.1, ?_⟩
        rw [unchanged.2]
        exact .of_unrepeated fun source answered isRepeated =>
          unrepeated answered (of_decide_eq_true isRepeated.2)
      cases found : Files.foundAt later.files setting.host.workingDirectory
          (cachePath className (.ofText project)) with
      | error error =>
        rw [run_decompile_of_refused found] at ran
        have alone := @run_decompile_of_refused setting start className project cfr error (same ▸ found)
        cases ran
        rw [alone]
        exact ⟨follows.more (by simp [alone]), rfl⟩
      | ok node =>
        cases node with
        | none =>
          exact follows.answers_making isTree scratch outside named apart (same ▸ found) found ran
        | some node => exact follows.answers_found (same ▸ found) found ran
    · have fails : ∃ error, (decompile className project true cfr setting start).1 = .error error :=
        exists_error_of_long named startAbsent isLong
      rcases fails with ⟨error, alone⟩
      rw [run_decompile_of_refused tooLong] at ran
      cases ran
      rw [alone]
      exact ⟨follows.more (by simp [alone]), .longName error rfl isLong⟩

end Follows

end Decompilation

end JarAtlas
