import JarAtlas.Proofs.Decompilation.KeptSource
import JarAtlas.Proofs.Files.Obstacles

/-!
# Trees with kept sources

What keeping sources adds to a tree: the sources of some classes in the cache directory of a project,
and directories on the way to more of them. A class whose source is not among them does not see what
has been added: its source is still not there, and the same files are in the way of keeping it. Only a
name that is too long may be noticed earlier, where the directories above it are new.
-/

namespace JarAtlas

open Action Files ClassName Text

namespace ClassName

variable {className other : Text}

/-- The names on the way from a project to the directory of a class's source. -/
def keptDirectories (className : Text) : List Text := cacheDirectory :: packages className

theorem keptNames_eq (className : Text) :
    keptNames className = keptDirectories className ++ [simple className ++ ".java"] := rfl

theorem not_mem_keptDirectories (className : Text) : (".." : Text) ∉ keptDirectories className :=
  fun up => not_mem_keptNames className (List.mem_append_left _ up)

/-- The file of a source is not on the way to another one. -/
theorem eq_of_keptNames_prefix (isPrefix : keptNames className <+: keptNames other) :
    className = other := by
  rw [keptNames_eq_cons, keptNames_eq_cons] at isPrefix
  exact eq_of_prefix_fileNames (by decide) (List.cons_prefix_cons.mp isPrefix).2

theorem not_keptNames_prefix : ¬ keptNames className <+: keptDirectories other := by
  intro isPrefix
  have same : className = other := eq_of_keptNames_prefix (isPrefix.trans (List.prefix_append _ _))
  have long := isPrefix.length_le
  rw [same, keptNames_eq, List.length_append] at long
  exact absurd long (by simp)

end ClassName

namespace FileTree

variable {tree between later : FileTree} {workingDirectory home place : Place} {className : Text}
  {isKept : Text → Prop}

/-- The tree has become another one by directories on the way to sources, and by the sources of the
classes that are kept. -/
def KeepsSources (home : Place) (isKept : Text → Prop) (tree later : FileTree) : Prop :=
  ∀ place, later.node? place ≠ tree.node? place → tree.node? place = none ∧
    ∃ className below, below ≠ [] ∧ below <+: keptNames className ∧ place = home ++ below ∧
      (below ≠ keptNames className → later.node? place = some .directory) ∧
      (below = keptNames className → isKept className)

namespace KeepsSources

theorem of_eq (same : later = tree) : KeepsSources home isKept tree later :=
  fun _ differs => absurd (by rw [same]) differs

theorem stays (keeps : KeepsSources home isKept tree later) {node : Node}
    (stands : tree.node? place = some node) : later.node? place = some node := by
  by_contra differs
  rw [← stands] at differs
  rw [(keeps place differs).1] at stands
  cases stands

theorem keepsDirectories (keeps : KeepsSources home isKept tree later) :
    tree.KeepsDirectories later :=
  fun _ stands => keeps.stays stands

theorem trans {other : Text → Prop} (first : KeepsSources home isKept tree between)
    (second : KeepsSources home other between later) :
    KeepsSources home (fun className => isKept className ∨ other className) tree later := by
  intro place differs
  by_cases same : later.node? place = between.node? place
  · rw [same] at differs ⊢
    rcases first place differs with ⟨free, className, below, goesOn, isBelow, isPlace, directory, kept⟩
    exact ⟨free, className, below, goesOn, isBelow, isPlace, directory, fun whole => .inl (kept whole)⟩
  · rcases second place same with ⟨free, className, below, goesOn, isBelow, isPlace, directory, kept⟩
    refine ⟨?_, className, below, goesOn, isBelow, isPlace, directory, fun whole => .inr (kept whole)⟩
    by_contra wasThere
    rw [(first place (by rw [free]; exact Ne.symm wasThere)).1] at wasThere
    exact wasThere rfl

theorem mono {more : Text → Prop} (keeps : KeepsSources home isKept tree later)
    (within : ∀ className, isKept className → more className) :
    KeepsSources home more tree later := by
  intro place differs
  rcases keeps place differs with ⟨free, className, below, goesOn, isBelow, isPlace, directory, kept⟩
  exact ⟨free, className, below, goesOn, isBelow, isPlace, directory,
    fun whole => within _ (kept whole)⟩

/-- Outside of the cache directory nothing is new. -/
theorem elsewhere (keeps : KeepsSources home isKept tree later)
    (apart : ¬ home ++ [cacheDirectory] <+: place) : later.node? place = tree.node? place := by
  by_contra differs
  rcases keeps place differs with ⟨-, className, below, goesOn, isBelow, rfl, -⟩
  apply apart
  rw [List.prefix_append_right_inj]
  rcases List.exists_cons_of_ne_nil goesOn with ⟨first, others, rfl⟩
  rw [keptNames, List.cons_append, List.cons_prefix_cons] at isBelow
  rw [isBelow.1]
  exact ⟨others, rfl⟩

/-- The same files are in the way of keeping a source. -/
theorem obstacle?_eq (keeps : KeepsSources home isKept tree later) (className : Text) :
    later.obstacle? home (keptDirectories className) =
      tree.obstacle? home (keptDirectories className) := by
  apply obstacle?_congr
  intro front isFront
  by_cases same : later.node? (home ++ front) = tree.node? (home ++ front)
  · rw [file?_congr same]
  · rcases keeps _ same with ⟨free, other, below, -, -, isPlace, directory, -⟩
    have isBelow := List.append_cancel_left isPlace
    have stands := directory fun whole => not_keptNames_prefix (whole ▸ isBelow ▸ isFront)
    rw [file?, file?, free, stands]

/-- The source of a class that is not kept is as it was. -/
theorem node?_of_not_kept (keeps : KeepsSources home isKept tree later)
    (unkept : ¬ isKept className) :
    later.node? (home ++ keptNames className) = tree.node? (home ++ keptNames className) := by
  by_contra differs
  rcases keeps _ differs with ⟨-, other, below, -, isBelow, isPlace, -, kept⟩
  rw [← List.append_cancel_left isPlace] at isBelow kept
  have same := eq_of_keptNames_prefix isBelow
  exact unkept (same ▸ kept (congrArg keptNames same))

end KeepsSources

theorem KeepsSources.lookup_stays (keeps : KeepsSources home isKept tree later) {path : Path} {node : Node}
    (found : tree.lookup workingDirectory path = .ok node) :
    later.lookup workingDirectory path = .ok node := by
  rcases exists_of_lookup found with ⟨place, located, stands⟩
  rw [FileTree.lookup, keeps.keepsDirectories.locate located]
  dsimp only
  rw [keeps.stays stands]

/-- The index of the project is found as it was. -/
theorem KeepsSources.foundAt_pathOf (keeps : KeepsSources home isKept tree later) {project : Text}
    (located : tree.locate workingDirectory (.ofText project) = .ok home)
    (stands : tree.node? home = some .directory) :
    Files.foundAt later workingDirectory (ClassIndex.pathOf project) =
      Files.foundAt tree workingDirectory (ClassIndex.pathOf project) := by
  have isChild : ClassIndex.pathOf project = (Path.ofText project).down [ClassIndex.fileName] :=
    ClassIndex.pathOf_eq project
  rw [isChild]
  by_cases fits : byteCount ((Path.ofText project).down [ClassIndex.fileName]).text ≤ pathLimit
  · have toIndex := locate_child fits located stands (by decide) (by decide)
    have sameNode : later.node? (home ++ [ClassIndex.fileName]) =
        tree.node? (home ++ [ClassIndex.fileName]) := by
      apply keeps.elsewhere
      rw [List.prefix_append_right_inj]
      decide
    rw [Files.foundAt, Files.foundAt, FileTree.lookup, FileTree.lookup, toIndex,
      keeps.keepsDirectories.locate toIndex]
    dsimp only
    rw [sameNode]
  · rw [foundAt_of_long (Nat.not_le.mp fits), foundAt_of_long (Nat.not_le.mp fits)]

/-- Where nothing was found, a source that is not kept is still not found, unless one of its names turns
out to be too long. -/
theorem KeepsSources.foundAt_of_unfound (keeps : KeepsSources home isKept tree later)
    (isTree : tree.IsTree) {project : Path} {fault : FileFault}
    (located : later.locate workingDirectory project = .ok home) (unkept : ¬ isKept className)
    (fits : byteCount (project.down (keptNames className)).text ≤ pathLimit)
    (unfound : tree.walk home (keptNames className) = .error fault) :
    let cache := project.down (keptNames className)
    foundAt later workingDirectory cache = .ok none ∨
      foundAt later workingDirectory cache = .error (.file .nameTooLong cache.text) ∧
        ∃ name ∈ keptNames className, nameLimit < byteCount name := by
  intro cache
  have toCache : later.locate workingDirectory cache = later.walk home (keptNames className) :=
    locate_down fits located
  have down := not_mem_keptNames className
  cases walked : later.walk home (keptNames className) with
  | ok place =>
    -- What is found now would have been found before.
    left
    have isPlace := eq_append_of_walk down walked
    rw [walked] at toCache
    have nothing : later.node? place = none := by
      rw [isPlace, keeps.node?_of_not_kept unkept]
      cases stands : tree.node? (home ++ keptNames className) with
      | none => rfl
      | some node =>
        rw [isTree.walk_down stands down (byteCount_le_of_walk walked)] at unfound
        cases unfound
    apply foundAt_of_missing
    rw [lookup, toCache]
    dsimp only
    rw [nothing]
  | error laterFault =>
    rw [walked] at toCache
    rw [foundAt_of_locate_error toCache]
    rcases fault_of_walk walked with laterAbsent | rfl
    · rw [laterAbsent, Bool.or_true, if_pos rfl]
      exact .inl rfl
    · split_ifs
      · exact .inl rfl
      · exact .inr ⟨rfl, exists_long_of_walk walked⟩

/-- A source that is not kept is found as it was, or one of its names turns out to be too long. -/
theorem KeepsSources.foundAt (keeps : KeepsSources home isKept tree later) (isTree : tree.IsTree)
    {project : Path} (located : tree.locate workingDirectory project = .ok home)
    (unkept : ¬ isKept className) :
    let cache := project.down (keptNames className)
    foundAt later workingDirectory cache = foundAt tree workingDirectory cache ∨
      foundAt tree workingDirectory cache = .ok none ∧
        foundAt later workingDirectory cache = .error (.file .nameTooLong cache.text) ∧
        ∃ name ∈ keptNames className, nameLimit < byteCount name := by
  intro cache
  have stillLocated := keeps.keepsDirectories.locate located
  by_cases fits : byteCount cache.text ≤ pathLimit
  · have toCache := locate_down fits located
    cases walked : tree.walk home (keptNames className) with
    | ok place =>
      left
      have sameNode := keeps.node?_of_not_kept unkept
      rw [← eq_append_of_walk (not_mem_keptNames className) walked] at sameNode
      rw [walked] at toCache
      rw [Files.foundAt, Files.foundAt, lookup, lookup, toCache,
        keeps.keepsDirectories.locate toCache]
      dsimp only
      rw [sameNode]
    | error fault =>
      rw [walked] at toCache
      have found := foundAt_of_locate_error toCache
      rcases fault_of_walk walked with absent | rfl
      · rw [absent, Bool.or_true, if_pos rfl] at found
        rw [found]
        rcases keeps.foundAt_of_unfound isTree stillLocated unkept fits walked
          with unfound | ⟨tooLong, isLong⟩
        · exact .inl unfound
        · exact .inr ⟨rfl, tooLong, isLong⟩
      · left
        rw [found, foundAt_of_locate_error (keeps.keepsDirectories.locate_eq toCache (by simp))]
  · left
    rw [foundAt_of_long (Nat.not_le.mp fits), foundAt_of_long (Nat.not_le.mp fits)]

end FileTree

namespace Decompilation

variable {setting : Setting} {session after made : Session} {className project source : Text}
  {home : Place}

/-- All names on the way to the source of a class can be written. -/
def IsWritable (className : Text) : Prop :=
  ∀ name ∈ keptNames className, byteCount name ≤ FileTree.nameLimit ∧ hasNull name = false

/-- A class that has been extracted has names that can be written. -/
theorem isWritable_of_decompileAfresh {cfr : Json} (named : IsNamed className)
    (made : decompileAfresh (.text className) project cfr setting session = (.ok source, after)) :
    IsWritable className := by
  rcases exists_of_decompileAfresh made
    with ⟨jar, decompiler, looked, file, extracted, behind, -, extraction, -⟩
  rcases Archive.lookup_of_run_extractClass extraction with ⟨isTarget, noNull, content, stamp, isThere⟩
  rcases FileTree.exists_of_lookup isThere with ⟨place, located, -⟩
  have target : file = (pathOf setting.host.temporaryDirectory).down
      (packages className ++ [simple className ++ entryEnding]) := isTarget.trans (named.join_entry _)
  have short := FileTree.byteCount_le_of_walk (FileTree.locate_eq_ok_iff.mp located).2
  rw [target] at noNull short
  rw [hasNull_down, Bool.or_eq_false_iff, List.any_eq_false] at noNull
  have extractable : ∀ name ∈ packages className ++ [simple className ++ entryEnding],
      byteCount name ≤ FileTree.nameLimit ∧ hasNull name = false := fun name member =>
    ⟨short name (List.mem_append_right _ member), Bool.eq_false_iff.mpr (noNull.2 name member)⟩
  intro name member
  rcases List.mem_append.mp member with isAbove | isFile
  · rcases List.mem_cons.mp isAbove with rfl | isPackage
    · decide
    · exact extractable name (List.mem_append_left _ isPackage)
  · -- The ending of a source is shorter than that of a class file.
    rw [List.mem_singleton.mp isFile]
    rcases extractable (simple className ++ entryEnding) (by simp) with ⟨fits, nullFree⟩
    rw [hasNull_append, Bool.or_eq_false_iff] at nullFree ⊢
    rw [FileTree.byteCount_append] at fits ⊢
    have shorter : byteCount (".java" : Text) ≤ byteCount entryEnding := by decide
    exact ⟨by omega, nullFree.1, by decide⟩

theorem parent_cachePath (named : IsNamed className) (project : Path) :
    (cachePath className project).parent = project.down (keptDirectories className) := by
  rw [named.cachePath_eq, keptNames_eq, Path.parent_down]

theorem hasNull_cachePath (named : IsNamed className) (writable : IsWritable className)
    (project : Path) : hasNull (cachePath className project).text = hasNull project.text := by
  have noNull : (keptNames className).any hasNull = false := by
    rw [List.any_eq_false]
    intro name member
    rw [(writable name member).2]
    exact Bool.false_ne_true
  rw [named.cachePath_eq, hasNull_down, noNull, Bool.or_false]

/-- No source is kept by a path with a null character. -/
theorem run_keepSource_of_hasNull (named : IsNamed className) (writable : IsWritable className)
    (null : hasNull (Path.ofText project).text = true) :
    keepSource (cachePath className (.ofText project)) source setting session =
      (.error .nullInPath, session) := by
  have cacheNull : hasNull (cachePath className (.ofText project)).text = true := by
    rw [hasNull_cachePath named writable, null]
  have parentNull : hasNull (cachePath className (.ofText project)).parent.text = true := by
    rw [parent_cachePath named, hasNull_down, null, Bool.true_or]
  unfold keepSource
  rw [run_bind]
  rcases run_ensureDirectories_of_hasNull parentNull with makes | refuses
  · rw [makes]
    dsimp only
    rw [run_write, if_pos cacheNull]
  · rw [refuses]

section

variable (named : IsNamed className) (writable : IsWritable className)
  (located : session.files.locate setting.host.workingDirectory (.ofText project) = .ok home)
  (noNull : hasNull (Path.ofText project).text = false)
  (absent : foundAt session.files setting.host.workingDirectory
    (cachePath className (.ofText project)) = .ok none)

include named writable noNull absent in
theorem fits_of_absent :
    byteCount (cachePath className (.ofText project)).text ≤ FileTree.pathLimit := by
  by_contra long
  rw [foundAt_of_long (Nat.not_le.mp long), hasNull_cachePath named writable, noNull] at absent
  cases absent

include named writable located noNull absent in
/-- Where a source has not been found, nothing stands. -/
theorem free_of_absent (isTree : session.files.IsTree) :
    session.files.node? (home ++ keptNames className) = none := by
  have fits := fits_of_absent named writable noNull absent
  rw [named.cachePath_eq] at fits absent
  cases stands : session.files.node? (home ++ keptNames className) with
  | none => rfl
  | some node =>
    have walked := isTree.walk_down stands (not_mem_keptNames className)
      fun name member => (writable name member).1
    have found : session.files.lookup setting.host.workingDirectory
        ((Path.ofText project).down (keptNames className)) = .ok node := by
      rw [FileTree.lookup, FileTree.locate_down fits located, walked]
      dsimp only
      rw [stands]
    rw [foundAt_of_lookup found] at absent
    cases absent

include named writable located noNull absent in
/-- A source that has not been found can be kept, unless a file is in the way. -/
theorem run_keepSource (isTree : session.files.IsTree)
    (stands : session.files.node? home = some .directory) :
    (keepSource (cachePath className (.ofText project)) source setting session).1 =
      match session.files.obstacle? home (keptDirectories className) with
      | none => .ok ()
      | some fault =>
        .error (.file fault ((Path.ofText project).down (keptDirectories className)).text) := by
  have fits := fits_of_absent named writable noNull absent
  have free := free_of_absent named writable located noNull absent isTree
  have nullFree := hasNull_cachePath named writable (.ofText project)
  have directories := parent_cachePath named (.ofText project)
  have down := not_mem_keptDirectories className
  rw [noNull] at nullFree
  rw [named.cachePath_eq] at fits nullFree directories ⊢
  rw [keptNames_eq, Path.down_append] at fits nullFree directories ⊢
  have parentNoNull : hasNull ((Path.ofText project).down (keptDirectories className)).text =
      false := by
    rw [hasNull_down, Bool.or_eq_false_iff] at nullFree
    exact nullFree.1
  have makes := run_ensureDirectories_down isTree located stands down
    (fun name member => (writable name (List.mem_append_left _ member)).1)
    (FileTree.byteCount_text_le fits) parentNoNull
  have grows : FileTree.Grows setting.host.workingDirectory
      (FileTree.LeadsTo ((Path.ofText project).down (keptDirectories className))) session.files
      (ensureDirectories ((Path.ofText project).down (keptDirectories className)) setting
        session).2.files :=
    puts_ensureDirectories (fun _ isPrefix => ⟨rfl, isPrefix, fun _ => rfl⟩) _ _
  unfold keepSource
  rw [directories, run_bind]
  rcases ran : ensureDirectories ((Path.ofText project).down (keptDirectories className)) setting
    session with ⟨result, made⟩
  rw [ran] at makes grows
  dsimp only at makes grows
  rw [makes]
  cases obstructed : session.files.obstacle? home (keptDirectories className) with
  | some fault => rfl
  | none =>
    rw [obstructed] at makes
    subst makes
    dsimp only
    rcases FileTree.Grows.home_of_locate located stands grows with ⟨stillLocated, -⟩
    rcases FileTree.exists_of_lookup (lookup_of_run_ensureDirectories ran)
      with ⟨parent, toParent, isParent⟩
    have isPlace : parent = home ++ keptDirectories className :=
      FileTree.eq_append_of_walk down (FileTree.walk_of_locate_down stillLocated toParent)
    have isFile : simple className ++ ".java" ∈ keptNames className := by simp [keptNames_eq]
    have toFile := FileTree.locate_child fits toParent isParent
      (fun up => not_mem_keptNames className (up ▸ isFile)) (writable _ isFile).1
    rw [isPlace, List.append_assoc, ← keptNames_eq] at toFile
    have stillFree : made.files.node? (home ++ keptNames className) = none := by
      by_contra isNew
      rw [← free] at isNew
      rcases grows.exists_below located stands down isNew with ⟨below, -, -, isBelow, same, -⟩
      rw [← List.append_cancel_left same] at isBelow
      exact not_keptNames_prefix isBelow
    exact run_write_of_locate nullFree toFile (by simp [stillFree])

include named writable located absent in
/-- What keeping a source adds to the tree: the source only if it succeeds. -/
theorem keepsSources_of_keepSource (isTree : session.files.IsTree)
    (stands : session.files.node? home = some .directory) {result : Except Error Unit}
    (kept : keepSource (cachePath className (.ofText project)) source setting session =
      (result, after)) :
    FileTree.KeepsSources home (fun other => other = className ∧ result = .ok ()) session.files
      after.files := by
  by_cases null : hasNull (Path.ofText project).text = true
  · rw [run_keepSource_of_hasNull named writable null] at kept
    cases kept
    exact .of_eq rfl
  have free := free_of_absent named writable located ((Bool.not_eq_true _).mp null) absent isTree
  have grows := puts_keepSource (cachePath className (.ofText project)) source setting session
  rw [kept, named.cachePath_eq] at grows
  intro place differs
  rcases grows.exists_below located stands (not_mem_keptNames className) differs
    with ⟨below, node, goesOn, isBelow, rfl, -, isNew, onTheWay, wasFree⟩
  have isFree : session.files.node? (home ++ below) = none := by
    by_cases whole : below = keptNames className
    · rw [whole, free]
    · exact wasFree (onTheWay whole)
  refine ⟨isFree, className, below, goesOn, isBelow, rfl, fun stops => ?_, fun whole => ⟨rfl, ?_⟩⟩
  · rw [isNew, onTheWay stops]
  · cases result with
    | ok answer => rfl
    | error error =>
      -- A failure comes before the file is written.
      have growsAbove := grows_of_failing_keepSource kept
      rw [parent_cachePath named] at growsAbove
      rcases growsAbove.exists_below located stands (not_mem_keptDirectories className) differs
        with ⟨other, -, -, isAbove, same, -⟩
      rw [← List.append_cancel_left same, whole] at isAbove
      exact absurd isAbove not_keptNames_prefix

end

/-- Whether a source can be kept does not depend on which others are. -/
theorem keepSource_congr {later : Session} {isKept : Text → Prop} (named : IsNamed className)
    (writable : IsWritable className)
    (located : session.files.locate setting.host.workingDirectory (.ofText project) = .ok home)
    (stands : session.files.node? home = some .directory) (isTree : session.files.IsTree)
    (laterTree : later.files.IsTree)
    (keeps : FileTree.KeepsSources home isKept session.files later.files)
    (absent : foundAt session.files setting.host.workingDirectory
      (cachePath className (.ofText project)) = .ok none)
    (laterAbsent : foundAt later.files setting.host.workingDirectory
      (cachePath className (.ofText project)) = .ok none) :
    (keepSource (cachePath className (.ofText project)) source setting later).1 =
      (keepSource (cachePath className (.ofText project)) source setting session).1 := by
  by_cases null : hasNull (Path.ofText project).text = true
  · rw [run_keepSource_of_hasNull named writable null, run_keepSource_of_hasNull named writable null]
  · rw [Bool.not_eq_true] at null
    rw [run_keepSource named writable located null absent isTree stands,
      run_keepSource named writable (keeps.keepsDirectories.locate located) null laterAbsent
        laterTree (keeps.stays stands), keeps.obstacle?_eq]

end Decompilation

end JarAtlas
