import JarAtlas.Proofs.Decompilation.Discovery
import JarAtlas.Proofs.Decompilation.Names

/-!
# Kept sources

A decompilation leaves the files as they are, whether it answers or fails, but for one thing: a source
that has been made anew and is to be kept is in its file afterwards, and the directories above it are
there. A decompilation that keeps nothing does not look at that file either.
-/

namespace JarAtlas

open Action Files ClassName

namespace FileTree

variable {tree changed : FileTree} {workingDirectory home place here : Place}
  {directory target : Path} {names : List Text}

/-- On the way to a target, no file changes but the one at the target. -/
theorem Grows.file?_of_ne (grows : Grows workingDirectory (LeadsTo target) tree changed)
    (located : changed.locate workingDirectory target = .ok place) (apart : here ≠ place) :
    changed.file? here = tree.file? here := by
  by_cases same : changed.node? here = tree.node? here
  · exact file?_congr same
  · rcases grows.exists_of_node?_ne same with ⟨path, node, leads, putLocated, stands, free⟩
    have isDirectory : node = .directory := by
      apply leads.directory
      intro sameSegments
      apply apart
      have isTarget : path = target := by
        rcases path with ⟨root, segments⟩
        rcases target with ⟨targetRoot, targetSegments⟩
        exact congrArg₂ Path.mk leads.root sameSegments
      rw [isTarget, located] at putLocated
      exact (Except.ok.inj putLocated).symm
    rw [file?, file?, stands, isDirectory, free isDirectory]

/-- A free name stays free when nothing is put below it. -/
theorem Grows.isFree (located : tree.locate workingDirectory directory = .ok home)
    (stands : tree.node? home = some .directory) (down : (".." : Text) ∉ names)
    (isFree : tree.IsFree place) (apart : ¬ place <+: home ++ names)
    (grows : Grows workingDirectory (LeadsTo (directory.down names)) tree changed) :
    changed.IsFree place := by
  induction grows with
  | refl => exact isFree
  | @tail between changed earlier put ih =>
    rcases Grows.home_of_locate located stands earlier with ⟨stillLocated, stillStands⟩
    rcases put.exists_below stillLocated stillStands down
      with ⟨below, node, -, isBelow, -, -, -, -, rfl⟩
    apply ih.set
    exact fun onTheWay => apart (onTheWay.trans ((List.prefix_append_right_inj home).mpr isBelow))

end FileTree

namespace Decompilation

variable {setting : Setting} {session after : Session} {className project : Text} {cfr : Json}

/-! ### Keeping a source -/

/-- Keeps a source in its file. -/
def keepSource (cache : Path) (source : Text) : Action Unit := do
  ensureDirectories cache.parent
  Files.write cache (.text source)

theorem puts_keepSource (cache : Path) (source : Text) :
    Puts (FileTree.LeadsTo cache) (keepSource cache source) := by
  apply Puts.bind
  · apply puts_ensureDirectories
    intro segments isPrefix
    exact ⟨rfl, isPrefix.trans (List.dropLast_prefix _), fun _ => rfl⟩
  · intro _
    exact puts_write fun stamp => ⟨rfl, List.prefix_refl _, fun differs => absurd rfl differs⟩

/-- A source that cannot be kept leaves every file as it was. -/
theorem file?_of_failing_keepSource {cache : Path} {source : Text} {error : Error}
    (failed : keepSource cache source setting session = (.error error, after)) (place : Place) :
    after.files.file? place = session.files.file? place := by
  have grows : FileTree.Grows setting.host.workingDirectory (fun _ node => node = .directory)
      session.files (ensureDirectories cache.parent setting session).2.files :=
    puts_ensureDirectories (fun _ _ => rfl) setting session
  rcases error_of_run_bind failed with refused | ⟨⟨⟩, made, makes, unwritten⟩
  · rw [refused] at grows
    exact grows.file?_eq place
  · rw [makes] at grows
    rw [(files_of_run_write unwritten).1]
    exact grows.file?_eq place

/-- A source that cannot be kept leaves nothing but directories above its file. -/
theorem grows_of_failing_keepSource {cache : Path} {source : Text} {error : Error}
    (failed : keepSource cache source setting session = (.error error, after)) :
    FileTree.Grows setting.host.workingDirectory (FileTree.LeadsTo cache.parent) session.files
      after.files := by
  have grows : FileTree.Grows setting.host.workingDirectory (FileTree.LeadsTo cache.parent)
      session.files (ensureDirectories cache.parent setting session).2.files :=
    puts_ensureDirectories (fun _ isPrefix => ⟨rfl, isPrefix, fun _ => rfl⟩) setting session
  rcases error_of_run_bind failed with refused | ⟨⟨⟩, made, makes, unwritten⟩
  · rwa [refused] at grows
  · rw [makes] at grows
    rwa [(files_of_run_write unwritten).1]

/-- A source that has been kept is in its file. -/
theorem lookup_of_keepSource {cache : Path} {source : Text}
    (kept : keepSource cache source setting session = (.ok (), after)) :
    hasNull cache.text = false ∧ ∃ stamp,
      after.files.lookup setting.host.workingDirectory cache = .ok (.file (.text source) stamp) := by
  rcases exists_of_run_bind kept with ⟨⟨⟩, made, -, wrote⟩
  rcases lookup_of_run_write wrote with ⟨noNull, isThere⟩
  exact ⟨noNull, _, isThere⟩

/-! ### The ways a decompilation goes -/

/-- The text that is read where a file holds the content. -/
def textOf : Content → Text
  | .text value => Text.unifyBreaks value
  | .archive _ => []

theorem run_readText (path : Path) : readText path setting session =
    ((contentAt session.files setting.host.workingDirectory path.text).map textOf, session) := by
  unfold readText
  rw [run_bind, run_read]
  cases contentAt session.files setting.host.workingDirectory path.text with
  | error error => rfl
  | ok content => cases content <;> rfl

theorem decompile_of_not_useCache :
    decompile className project false cfr = decompileAfresh (.text className) project cfr := by
  simp [decompile]

/-- With kept sources, the file is read if it is there. -/
theorem run_decompile_useCache : decompile className project true cfr setting session =
    let cache := cachePath className (.ofText project)
    match foundAt session.files setting.host.workingDirectory cache with
    | .error error => (.error error, session)
    | .ok (some _) => readText cache setting session
    | .ok none =>
      (do
        let source ← decompileAfresh (.text className) project cfr
        keepSource cache source
        return source : Action Text) setting session := by
  unfold decompile keepSource
  simp only [if_true]
  rw [run_bind, run_doesExist]
  cases foundAt session.files setting.host.workingDirectory
      (cachePath className (.ofText project)) with
  | error error => rfl
  | ok found =>
    cases found with
    | some node => rfl
    | none =>
      simp only [Except.map, Option.isSome_none, Bool.false_eq_true, if_false, bind_assoc]

theorem run_decompile_of_refused {error : Error}
    (refused : foundAt session.files setting.host.workingDirectory
      (cachePath className (.ofText project)) = .error error) :
    decompile className project true cfr setting session = (.error error, session) := by
  rw [run_decompile_useCache]
  dsimp only
  rw [refused]

theorem run_decompile_of_found {node : Node}
    (found : foundAt session.files setting.host.workingDirectory
      (cachePath className (.ofText project)) = .ok (some node)) :
    decompile className project true cfr setting session =
      readText (cachePath className (.ofText project)) setting session := by
  rw [run_decompile_useCache]
  dsimp only
  rw [found]

/-- A source that is not kept yet is made, and then it is kept. -/
theorem run_decompile_of_absent (absent : foundAt session.files setting.host.workingDirectory
      (cachePath className (.ofText project)) = .ok none) :
    decompile className project true cfr setting session =
      match decompileAfresh (.text className) project cfr setting session with
      | (.error error, fresh) => (.error error, fresh)
      | (.ok source, fresh) =>
        let outcome := keepSource (cachePath className (.ofText project)) source setting fresh
        (outcome.1.map fun _ => source, outcome.2) := by
  rw [run_decompile_useCache]
  dsimp only
  rw [absent]
  dsimp only
  rw [run_bind]
  rcases decompileAfresh (.text className) project cfr setting session with ⟨result, fresh⟩
  cases result with
  | error error => rfl
  | ok source =>
    dsimp only
    rw [run_bind]
    rcases keepSource (cachePath className (.ofText project)) source setting fresh
      with ⟨outcome, kept⟩
    cases outcome <;> rfl

/-- Keeping a source changes no file but that of the source, which then holds it. -/
theorem files_of_keepSource {cache : Path} {source : Text}
    (kept : keepSource cache source setting session = (.ok (), after)) :
    ∃ place stamp, after.files.locate setting.host.workingDirectory cache = .ok place ∧
      after.files.node? place = some (.file (.text source) stamp) ∧
      ∀ other, other ≠ place → after.files.file? other = session.files.file? other := by
  have grows := puts_keepSource cache source setting session
  rw [kept] at grows
  rcases lookup_of_keepSource kept with ⟨-, stamp, isThere⟩
  rcases FileTree.exists_of_lookup isThere with ⟨place, located, holds⟩
  exact ⟨place, stamp, located, holds, fun other elsewhere =>
    grows.file?_of_ne located elsewhere⟩

/-! ### What a decompilation leaves -/

/-- The place belongs to the kept sources of a project or to the temporary directory. -/
def IsWorkplace (setting : Setting) (home place : Place) : Prop :=
  home ++ [cacheDirectory] <+: place ∨ setting.host.temporaryDirectory <+: place

instance (setting : Setting) (home : Place) : DecidablePred (IsWorkplace setting home) :=
  fun _ => inferInstanceAs (Decidable (_ ∨ _))

/-- The ways to the indexed jars lead neither through the kept sources of the project nor through the
temporary directory. -/
def JarsOutside (setting : Setting) (session : Session) (project : Text) : Prop :=
  ∀ table, (ClassIndex.lookupTable project setting session).1 = .ok table →
    ∀ entry ∈ table, ∀ jar, entry.2 = .text jar →
      ∀ home, session.files.locate setting.host.workingDirectory (.ofText project) = .ok home →
        session.files.Avoids setting.host.workingDirectory (.ofText jar) (IsWorkplace setting home)

instance decidableOfAnswer {ε α : Type} {result : Except ε α} {holds : α → Prop}
    [∀ answer, Decidable (holds answer)] : Decidable (∀ answer, result = .ok answer → holds answer) :=
  match result with
  | .ok answer => decidable_of_iff (holds answer) (by simp)
  | .error _ => .isTrue (by simp)

instance decidableOfText {value : Json} {holds : Text → Prop} [∀ text, Decidable (holds text)] :
    Decidable (∀ text, value = .text text → holds text) :=
  decidable_of_iff (∀ text ∈ value.text?, holds text) (by simp [Json.text?_eq_some_iff])

instance : Decidable (JarsOutside setting session project) :=
  inferInstanceAs (Decidable (∀ table, (ClassIndex.lookupTable project setting session).1 = .ok table →
    ∀ entry ∈ table, ∀ jar, entry.2 = .text jar → ∀ home,
      session.files.locate setting.host.workingDirectory (.ofText project) = .ok home →
        session.files.Avoids _ (.ofText jar) (IsWorkplace setting home)))

/-- The jar of a class is the same in trees that agree outside of the kept sources of the project. -/
theorem JarsOutside.jarsAlike {other : Session} {home : Place} {className : JsonString} {jar : Json}
    (outside : JarsOutside setting session project)
    (located : session.files.locate setting.host.workingDirectory (.ofText project) = .ok home)
    (agree : ∀ place, ¬ home ++ [cacheDirectory] <+: place →
      other.files.node? place = session.files.node? place)
    (found : (ClassIndex.jarOf (.string className) project setting session).1 = .ok jar) :
    Archive.JarsAlike setting jar session other := by
  rintro text rfl
  rcases ClassIndex.exists_of_jarOf found with ⟨table, looked, entry, isEntry, isJar⟩
  have avoids := outside table looked entry isEntry text isJar home located
  rcases avoids.congr fun place apart => agree place fun inCache => apart (.inl inCache)
    with ⟨same, otherAvoids⟩
  refine ⟨contentAt_congr same, ?_⟩
  intro files isOne
  rcases List.mem_pair.mp isOne with rfl | rfl
  · exact avoids.mono fun _ => .inr
  · exact otherAvoids.mono fun _ => .inr

/-- The index of a project is not the file of a source. -/
theorem locate_pathOf_ne {files : FileTree} {workingDirectory place : Place}
    (named : IsNamed className)
    (kept : files.locate workingDirectory (cachePath className (.ofText project)) = .ok place) :
    files.locate workingDirectory (ClassIndex.pathOf project) ≠ .ok place := by
  intro located
  rw [named.cachePath_eq] at kept
  rw [ClassIndex.pathOf_eq] at located
  rcases FileTree.exists_home_of_locate (not_mem_keptNames className) kept
    with ⟨home, toHome, rfl⟩
  rcases FileTree.exists_home_of_locate (by decide) located with ⟨otherHome, again, same⟩
  cases toHome.symm.trans again
  have first := congrArg List.head? (List.append_cancel_left same)
  rw [keptNames] at first
  exact absurd (Option.some.inj first) (by decide)

theorem file?_of_failing_decompile (named : IsNamed className)
    (scratch : IsScratch setting session.files) {useCache : Bool} {error : Error}
    (failed : decompile className project useCache cfr setting session = (.error error, after))
    (place : Place) : after.files.file? place = session.files.file? place := by
  have making : (decompileAfresh (.text className) project cfr setting session).2.files =
      session.files := files_of_decompileAfresh scratch named.not_isRooted_entry
  cases useCache with
  | false =>
    rw [decompile_of_not_useCache] at failed
    rw [failed] at making
    dsimp only at making
    rw [making]
  | true =>
    rw [run_decompile_useCache] at failed
    dsimp only at failed
    split at failed
    · cases failed
      rfl
    · rename_i node kept
      rw [run_readText] at failed
      rw [← (Prod.mk.inj failed).2]
    · rename_i absent
      rcases error_of_run_bind failed with refused | ⟨source, fresh, made, keeping⟩
      · rw [refused] at making
        dsimp only at making
        rw [making]
      · rw [made] at making
        dsimp only at making
        rcases error_of_run_bind keeping with unkept | ⟨answer, kept, -, answers⟩
        · rw [file?_of_failing_keepSource unkept, making]
        · cases answers

theorem files_of_answering_decompile (named : IsNamed className)
    (scratch : IsScratch setting session.files) {useCache : Bool} {source : Text}
    (ran : decompile className project useCache cfr setting session = (.ok source, after)) :
    let cache := cachePath className (.ofText project)
    if useCache = true ∧ foundAt session.files setting.host.workingDirectory cache = .ok none then
      Text.isBlankText source = false ∧ ∃ place stamp,
        after.files.locate setting.host.workingDirectory cache = .ok place ∧
          after.files.node? place = some (.file (.text source) stamp) ∧
          ∀ other, other ≠ place → after.files.file? other = session.files.file? other
    else after.files = session.files := by
  have making : (decompileAfresh (.text className) project cfr setting session).2.files =
      session.files := files_of_decompileAfresh scratch named.not_isRooted_entry
  intro cache
  cases useCache with
  | false =>
    rw [decompile_of_not_useCache] at ran
    rw [ran] at making
    rw [if_neg (by simp)]
    exact making
  | true =>
    rw [run_decompile_useCache] at ran
    dsimp only at ran
    cases found : foundAt session.files setting.host.workingDirectory cache with
    | error error =>
      rw [found] at ran
      cases ran
    | ok node =>
      rw [found] at ran
      cases node with
      | some node =>
        rw [if_neg (by simp)]
        dsimp only at ran
        rw [run_readText] at ran
        rw [← (Prod.mk.inj ran).2]
      | none =>
        rw [if_pos ⟨rfl, rfl⟩]
        rcases exists_of_run_bind ran with ⟨made, fresh, makes, keeping⟩
        rcases exists_of_run_bind keeping with ⟨⟨⟩, kept, keeps, answers⟩
        cases answers
        rw [makes] at making
        dsimp only at making
        rw [← making]
        exact ⟨(of_decompileAfresh makes).1, files_of_keepSource keeps⟩

/-- Without kept sources, the file of the source does not matter for the answer. -/
theorem decompile_of_agreeBut {other : Session} {place : Place} (named : IsNamed className)
    (scratch : IsScratch setting session.files) (otherScratch : IsScratch setting other.files)
    (outside : JarsOutside setting session project)
    (located : session.files.locate setting.host.workingDirectory
      (cachePath className (.ofText project)) = .ok place)
    (agree : FileTree.AgreeBut place session.files other.files)
    (remembered : other.memory = session.memory) :
    (decompile className project false cfr setting other).1 =
      (decompile className project false cfr setting session).1 := by
  have lookups : (ClassIndex.lookupTable project setting other).1 =
      (ClassIndex.lookupTable project setting session).1 := by
    apply ClassIndex.lookupTable_congr
    · exact foundAt_of_agreeBut agree (locate_pathOf_ne named located)
    · rw [remembered]
  have toPlace := located
  rw [named.cachePath_eq] at toPlace
  rcases FileTree.exists_home_of_locate (not_mem_keptNames className) toPlace
    with ⟨home, toHome, rfl⟩
  have noJar : ∀ name ∈ (home ++ keptNames className).getLast?, Tool.isCfrJar name = false := by
    intro name isLast
    rw [keptNames, ← List.append_assoc, List.getLast?_concat] at isLast
    cases isLast
    exact Tool.isCfrJar_java _
  rw [decompile_of_not_useCache]
  apply decompileAfresh_congr scratch otherScratch named.not_isRooted_entry _ lookups
  · intro jar found
    apply outside.jarsAlike toHome _ found
    intro here apart
    apply agree.elsewhere
    rintro rfl
    exact apart ((List.prefix_append_right_inj home).mpr ⟨_, rfl⟩)
  · apply cfrJar_congr
    · rw [remembered]
    · exact (Tool.respects_findCfr noJar _ _ agree).1

/-- A project with a jar and an index that names it. -/
def jarProject : Session where
  files :=
    ⟨[(["work"], .directory), (["work", "a.jar"], .file (.archive [("a/B.class", "bytes")]) 1),
      (["work", ClassIndex.fileName],
        .file (.text ("\x7b\"class_index\": [\x7b\"class_name\": \"a.B\", " ++
          "\"jar_path\": \"a.jar\"\x7d]\x7d")) 2)]⟩
  clock := 3
  launches := []
  memory := .empty

/-- A setting in which the decompiler prints the same source whatever it is given. -/
def printingSetting : Setting :=
  { ClassIndex.workSetting with
    host := { ClassIndex.workSetting.host with answer := fun _ => .ended 0 "class B;\r\n" [] } }

theorem isScratch_jarProject : IsScratch printingSetting jarProject.files where
  nonempty := by decide
  plain := by simp [Path.IsPlain, pathOf, printingSetting, ClassIndex.workSetting]
  down := by decide
  located := by decide
  isFree := by decide

end Decompilation

end JarAtlas
