import JarAtlas.Proofs.ClassIndex.Indexing
import JarAtlas.Proofs.Decompilation.Extraction
import JarAtlas.Proofs.Files.Obstacles
import JarAtlas.Proofs.Files.Standing

/-!
# Listed classes that are extracted

A jar lists a class by its entry with dots for slashes, and an extraction looks for the name with
slashes for dots. Each undoes the other where no dot was in the entry before. The directories of such
entries then have names without dots and their files names with one, so in a directory that only such
files are extracted to, no file ever stands where a package belongs and no directory where a class
belongs. Only names and paths that are too long keep a class from being extracted.
-/

namespace JarAtlas

open Action Files Text

/-! ### Names of entries -/

namespace ClassName

theorem ofEntry?_append {stem : Text} (noDollar : '$' ∉ stem) :
    ofEntry? (stem ++ entryEnding) =
      some (stem.map fun character => if character = '/' then '.' else character) := by
  have bare : dropEnding entryEnding (stem ++ entryEnding) = stem := by simp [dropEnding]
  rw [ClassIndex.ofEntry?_eq_some_iff]
  refine ⟨List.suffix_append _ _, ?_, by rw [bare]⟩
  rw [List.mem_append, not_or]
  exact ⟨noDollar, by decide⟩

theorem exists_stem_of_ofEntry? {entry className : Text} (isListed : ofEntry? entry = some className) :
    ∃ stem, entry = stem ++ entryEnding ∧
      className = stem.map fun character => if character = '/' then '.' else character := by
  rcases ClassIndex.ofEntry?_eq_some_iff.mp isListed with ⟨⟨stem, rfl⟩, -, isName⟩
  refine ⟨stem, rfl, ?_⟩
  rwa [show dropEnding entryEnding (stem ++ entryEnding) = stem by simp [dropEnding]] at isName

/-- The dots of a class name are turned back into the slashes that they have been made of. -/
theorem entry_map_eq_iff {stem : Text} :
    entry (stem.map fun character => if character = '/' then '.' else character) =
      stem ++ entryEnding ↔ '.' ∉ stem := by
  rw [entry, List.append_left_inj, List.map_map]
  induction stem with
  | nil => simp
  | cons character stem ih =>
    rw [List.map_cons, List.cons_eq_cons, ih, List.mem_cons, not_or]
    refine and_congr_left fun _ => ?_
    by_cases slash : character = '/'
    · simp [slash]
    · simp [slash, eq_comm]

/-- The entry is a relative path, and the dot of its ending is its only one. -/
def HasPlainPath (entry : Text) : Prop :=
  ¬ Path.IsRooted entry ∧ '.' ∉ dropEnding entryEnding entry

instance (entry : Text) : Decidable (HasPlainPath entry) := inferInstanceAs (Decidable (_ ∧ _))

end ClassName

/-! ### Directories for class files -/

namespace FileTree

variable {tree changed : FileTree} {workingDirectory home : Place} {base : Path}
  {names packages : List Text} {file : Text}

/-- Class files can be put into the directory that the names lead to: no file stands on the way there
or where a package may have its directory, and no directory where a class may have its file. -/
structure TakesClasses (tree : FileTree) (home : Place) (names : List Text) : Prop where
  way : ∀ front, front <+: names → tree.file? (home ++ front) = none
  packages : ∀ front, (∀ name ∈ front, '.' ∉ name) → tree.file? (home ++ (names ++ front)) = none
  classes : ∀ front last, (∀ name ∈ front, '.' ∉ name) → '.' ∈ last →
    tree.node? (home ++ (names ++ front ++ [last])) ≠ some .directory

theorem TakesClasses.obstacle? (takes : tree.TakesClasses home names)
    (noDots : ∀ name ∈ packages, '.' ∉ name) : tree.obstacle? home (names ++ packages) = none := by
  rw [obstacle?_eq_none_iff]
  intro front isFront
  rcases prefix_or_beyond isFront with onTheWay | ⟨beyond, -, isBeyond, rfl⟩
  · exact takes.way front onTheWay
  · exact takes.packages beyond fun name member => noDots name (isBeyond.subset member)

/-- The directories of packages leave room for the files of classes. -/
theorem TakesClasses.directories (takes : tree.TakesClasses home names)
    (noDots : ∀ name ∈ packages, '.' ∉ name)
    (located : tree.locate workingDirectory base = .ok home)
    (stands : tree.node? home = some .directory) (down : (".." : Text) ∉ names ++ packages)
    (makes : Grows workingDirectory (fun _ node => node = .directory) tree changed)
    (grows : Grows workingDirectory (LeadsTo (base.down (names ++ packages))) tree changed) :
    changed.TakesClasses home names where
  way front isFront := (makes.file?_eq _).trans (takes.way front isFront)
  packages front plain := (makes.file?_eq _).trans (takes.packages front plain)
  classes front last plain dotted isDirectory := by
    have isNew : changed.node? (home ++ (names ++ front ++ [last])) ≠
        tree.node? (home ++ (names ++ front ++ [last])) := by
      rw [isDirectory]
      exact Ne.symm (takes.classes front last plain dotted)
    rcases grows.exists_below located stands down isNew with ⟨below, -, -, isBelow, same, -⟩
    rw [← List.append_cancel_left same, List.append_assoc, List.prefix_append_right_inj] at isBelow
    exact noDots last (isBelow.subset (by simp)) dotted

/-- So do the files of other classes. -/
theorem TakesClasses.set_file {content : Content} {stamp : Int} (takes : tree.TakesClasses home names)
    (dotted : '.' ∈ file) :
    (tree.set (home ++ (names ++ packages ++ [file])) (.file content stamp)).TakesClasses home
      names where
  way front isFront := by
    have apart : home ++ front ≠ home ++ (names ++ packages ++ [file]) := by
      intro same
      rw [List.append_cancel_left same] at isFront
      exact absurd isFront.length_le (by simp)
    exact (file?_congr (node?_set_ne _ apart)).trans (takes.way front isFront)
  packages front plain := by
    have apart : home ++ (names ++ front) ≠ home ++ (names ++ packages ++ [file]) := by
      intro same
      rw [List.append_assoc] at same
      rw [List.append_cancel_left (List.append_cancel_left same)] at plain
      exact plain file (by simp) dotted
    exact (file?_congr (node?_set_ne _ apart)).trans (takes.packages front plain)
  classes front last plain isDotted := by
    by_cases same : home ++ (names ++ front ++ [last]) = home ++ (names ++ packages ++ [file])
    · rw [same, node?_set_self _ (by simp)]
      simp
    · rw [node?_set_ne _ same]
      exact takes.classes front last plain isDotted

end FileTree

namespace Archive

open ClassName FileTree

variable {setting : Setting} {session after : Session} {jar className : Text}
  {entries : List (Text × Text)} {destination base : Path} {home : Place}
  {names packages : List Text} {file content : Text}

/-! ### One class after another -/

/-- The directory that the names lead to from `base` takes the classes of the jar, which is not in
there. -/
structure Unpacks (jar : Text) (entries : List (Text × Text)) (base : Path) (home : Place)
    (names : List Text) (setting : Setting) (session : Session) : Prop where
  isTree : session.files.IsTree
  located : session.files.locate setting.host.workingDirectory base = .ok home
  isDirectory : session.files.node? home = some .directory
  takes : session.files.TakesClasses home names
  isElsewhere : ∃ place content stamp,
    session.files.locate setting.host.workingDirectory (.ofText jar) = .ok place ∧
      session.files.node? place = some (.file content stamp) ∧ ¬ home ++ names <+: place
  readable : entriesAt session.files setting.host.workingDirectory jar = .ok entries

/-- The entries of a jar are told by what its path leads to. -/
theorem entriesAt_congr {files other : FileTree} {workingDirectory place : Place} {content : Content}
    {stamp : Int} (located : files.locate workingDirectory (.ofText jar) = .ok place)
    (stands : files.node? place = some (.file content stamp))
    (keeps : files.KeepsDirectories other) (same : other.node? place = some (.file content stamp)) :
    entriesAt other workingDirectory jar = entriesAt files workingDirectory jar := by
  have sameLookup : other.lookup workingDirectory (.ofText jar) =
      files.lookup workingDirectory (.ofText jar) := by
    rw [FileTree.lookup, FileTree.lookup, located, keeps.locate located]
    dsimp only
    rw [stands, same]
  rw [entriesAt, entriesAt, contentAt_congr sameLookup]

theorem run_readEntry {entry content : Text}
    (readable : entriesAt session.files setting.host.workingDirectory jar = .ok entries)
    (isLast : contentOf? entries (.text entry) = some content) :
    readEntry (.text jar) (.text entry) setting session = (.ok content, session) := by
  have reads : (entriesNamed (.text jar)).attempt setting session = (.ok (.ok entries), session) := by
    change (entriesOf jar).attempt setting session = _
    rw [run_attempt, run_entriesOf, readable]
  unfold readEntry
  rw [run_bind, reads]
  dsimp only
  rw [isLast]
  rfl

/-- The class is extracted to a file in its packages, below the names, and its entry has the content. -/
structure IsFiled (entries : List (Text × Text)) (destination base : Path) (names packages : List Text)
    (file className content : Text) : Prop where
  isTarget : destination.join (entry className) = base.down (names ++ packages ++ [file])
  noDots : ∀ name ∈ packages, '.' ∉ name
  dotted : '.' ∈ file
  down : (".." : Text) ∉ names ++ packages ++ [file]
  isLast : contentOf? entries (.text (entry className)) = some content

theorem IsFiled.packagesDown
    (filed : IsFiled entries destination base names packages file className content) :
    (".." : Text) ∉ names ++ packages :=
  fun up => filed.down (List.mem_append_left _ up)

namespace Unpacks

/-- What is put on a way below the directory leaves the jar alone, as this is elsewhere. -/
theorem of_grows {way : List Text} (unpacks : Unpacks jar entries base home names setting session)
    (down : (".." : Text) ∉ way)
    (grows : Grows setting.host.workingDirectory (LeadsTo (base.down way)) session.files after.files)
    (takes : after.files.TakesClasses home names)
    (spares : ∀ place content stamp, ¬ home ++ names <+: place →
      session.files.node? place = some (.file content stamp) →
        after.files.node? place = some (.file content stamp)) :
    Unpacks jar entries base home names setting after := by
  rcases Grows.home_of_locate unpacks.located unpacks.isDirectory grows with ⟨located, isDirectory⟩
  rcases unpacks.isElsewhere with ⟨place, content, stamp, toJar, stands, elsewhere⟩
  have stillThere := spares place content stamp elsewhere stands
  have keeps := grows.keepsDirectories
  refine ⟨grows.isTree unpacks.located unpacks.isDirectory down unpacks.isTree, located, isDirectory,
    takes, ⟨place, content, stamp, keeps.locate toJar, stillThere, elsewhere⟩, ?_⟩
  rw [entriesAt_congr toJar stands keeps stillThere, unpacks.readable]

/-- The directories of a package are made, or some of them, and nothing else. -/
theorem ensureDirectories (unpacks : Unpacks jar entries base home names setting session)
    (noDots : ∀ name ∈ packages, '.' ∉ name) (down : (".." : Text) ∉ names ++ packages)
    {result : Except Error Unit}
    (ran : Files.ensureDirectories (base.down (names ++ packages)) setting session = (result, after)) :
    Unpacks jar entries base home names setting after ∧
      ∀ place, after.files.file? place = session.files.file? place := by
  have makes : Grows setting.host.workingDirectory (fun _ node => node = .directory) session.files
      (Files.ensureDirectories (base.down (names ++ packages)) setting session).2.files :=
    puts_ensureDirectories (fun _ _ => rfl) _ _
  have grows : Grows setting.host.workingDirectory (LeadsTo (base.down (names ++ packages)))
      session.files
      (Files.ensureDirectories (base.down (names ++ packages)) setting session).2.files :=
    puts_ensureDirectories (fun _ isPrefix => ⟨rfl, isPrefix, fun _ => rfl⟩) _ _
  rw [ran] at makes grows
  have takes := unpacks.takes.directories noDots unpacks.located unpacks.isDirectory down makes grows
  exact ⟨unpacks.of_grows down grows takes fun _ _ _ _ => makes.node?_of_directories, makes.file?_eq⟩

/-- The file of a class is written, and no other file. -/
theorem write (unpacks : Unpacks jar entries base home names setting session)
    (dotted : '.' ∈ file) (down : (".." : Text) ∉ names ++ packages ++ [file]) {content : Content}
    (ran : Files.write (base.down (names ++ packages ++ [file])) content setting session =
      (.ok (), after)) :
    Unpacks jar entries base home names setting after ∧
      after.files.locate setting.host.workingDirectory (base.down (names ++ packages ++ [file])) =
        .ok (home ++ (names ++ packages ++ [file])) ∧
      after.files =
        session.files.set (home ++ (names ++ packages ++ [file])) (.file content session.clock) := by
  rcases write_eq_ok_iff.mp (write_of_run_write ran).2 with ⟨place, target, noDirectory, isSet⟩
  have isPlace : place = home ++ (names ++ packages ++ [file]) :=
    eq_append_of_walk down (walk_of_locate_down unpacks.located target)
  subst isPlace
  have put : Put setting.host.workingDirectory
      (LeadsTo (base.down (names ++ packages ++ [file]))) session.files after.files := by
    rw [isSet]
    exact .intro ⟨rfl, List.prefix_refl _, fun differs => absurd rfl differs⟩ target noDirectory
      (by simp)
  refine ⟨unpacks.of_grows down (.single put) ?_ ?_, put.keepsDirectories.locate target, isSet⟩
  · rw [isSet]
    exact unpacks.takes.set_file dotted
  · intro other otherContent stamp elsewhere stands
    have apart : other ≠ home ++ (names ++ packages ++ [file]) := by
      rintro rfl
      rw [List.append_assoc, ← List.append_assoc home] at elsewhere
      exact elsewhere (List.prefix_append _ _)
    rw [isSet, node?_set_ne _ apart, stands]

section

variable (unpacks : Unpacks jar entries base home names setting session)
  (filed : IsFiled entries destination base names packages file className content)

include unpacks filed

/-- The jar can still be read when the directories have been made. -/
theorem run_extractClass :
    extractClass (.text jar) (.text className) destination setting session =
      (do
        Files.ensureDirectories (base.down (names ++ packages))
        Files.write (base.down (names ++ packages ++ [file])) (.text content)
        return base.down (names ++ packages ++ [file]) : Action Path) setting session := by
  have isText : entryOf (.text className) = .text (entry className) := rfl
  unfold extractClass
  rw [isText, JsonString.display, filed.isTarget, ensureDirectoryOf_text, Path.parent_down, run_bind, run_bind]
  rcases makes : Files.ensureDirectories (base.down (names ++ packages)) setting session
    with ⟨result, made⟩
  cases result with
  | error error => rfl
  | ok =>
    have ready := (unpacks.ensureDirectories filed.noDots filed.packagesDown makes).1
    exact run_bind_of_ok (run_readEntry ready.readable filed.isLast)

/-- An extraction writes the file of the class, or it fails and writes none. The next class can be
extracted then. -/
theorem extracts {result : Except Error Path}
    (ran : extractClass (.text jar) (.text className) destination setting session = (result, after)) :
    Unpacks jar entries base home names setting after ∧
      ((∃ error, result = .error error) ∧
          (∀ place, after.files.file? place = session.files.file? place) ∨
        result = .ok (destination.join (entry className)) ∧ ∃ place stamp,
          after.files.locate setting.host.workingDirectory (destination.join (entry className)) =
              .ok place ∧
            after.files.node? place = some (.file (.text content) stamp) ∧
            ∀ other, other ≠ place → after.files.file? other = session.files.file? other) := by
  rw [run_extractClass unpacks filed, run_bind] at ran
  rw [filed.isTarget]
  rcases makes : Files.ensureDirectories (base.down (names ++ packages)) setting session
    with ⟨outcome, made⟩
  rw [makes] at ran
  rcases unpacks.ensureDirectories filed.noDots filed.packagesDown makes with ⟨ready, sameFiles⟩
  cases outcome with
  | error error =>
    cases ran
    exact ⟨ready, .inl ⟨⟨error, rfl⟩, sameFiles⟩⟩
  | ok =>
    dsimp only at ran
    rw [run_bind] at ran
    rcases writes : Files.write (base.down (names ++ packages ++ [file])) (.text content) setting made
      with ⟨outcome, written⟩
    rw [writes] at ran
    cases outcome with
    | error error =>
      have unchanged : written = made := (files_of_run_write writes).1
      cases ran
      exact ⟨unchanged ▸ ready, .inl ⟨⟨error, rfl⟩, unchanged ▸ sameFiles⟩⟩
    | ok =>
      cases ran
      rcases ready.write filed.dotted filed.down writes with ⟨again, located, isSet⟩
      refine ⟨again, .inr ⟨rfl, _, made.clock, located, ?_, fun other apart => ?_⟩⟩
      · rw [isSet, node?_set_self _ (by simp)]
      · rw [isSet, file?_congr (node?_set_ne _ apart), sameFiles]

/-- Unless a name or the path is too long, the extraction succeeds. -/
theorem extractClass_eq_ok (noNull : hasNull (destination.join (entry className)).text = false)
    (short : ∀ name ∈ names ++ packages ++ [file], byteCount name ≤ nameLimit)
    (fits : byteCount (destination.join (entry className)).text ≤ pathLimit) :
    (extractClass (.text jar) (.text className) destination setting session).1 =
      .ok (destination.join (entry className)) := by
  rw [filed.isTarget] at noNull fits ⊢
  have isWhole := Path.down_append base (names ++ packages) [file]
  have packagesNoNull : hasNull (base.down (names ++ packages)).text = false := by
    rw [isWhole, hasNull_down, Bool.or_eq_false_iff] at noNull
    exact noNull.1
  have makes := run_ensureDirectories_down unpacks.isTree unpacks.located unpacks.isDirectory
    filed.packagesDown (fun name member => short name (List.mem_append_left _ member))
    (byteCount_text_le (isWhole ▸ fits)) packagesNoNull
  rw [unpacks.takes.obstacle? filed.noDots] at makes
  rw [run_extractClass unpacks filed, run_bind]
  rcases ran : Files.ensureDirectories (base.down (names ++ packages)) setting session
    with ⟨result, made⟩
  rw [ran] at makes
  cases makes
  have ready := (unpacks.ensureDirectories filed.noDots filed.packagesDown ran).1
  rcases exists_of_lookup (lookup_of_run_ensureDirectories ran) with ⟨parent, toParent, isParent⟩
  have isPlace : parent = home ++ (names ++ packages) :=
    eq_append_of_walk filed.packagesDown (walk_of_locate_down ready.located toParent)
  have toFile := locate_child (isWhole ▸ fits) toParent isParent (fun up => filed.down (by simp [up]))
    (short file (by simp))
  rw [← isWhole, isPlace, List.append_assoc home] at toFile
  have writes : (Files.write (base.down (names ++ packages ++ [file])) (.text content) setting
      made).1 = .ok () :=
    run_write_of_locate noNull toFile (ready.takes.classes packages file filed.noDots filed.dotted)
  dsimp only
  rw [run_bind]
  rcases wrote : Files.write (base.down (names ++ packages ++ [file])) (.text content) setting made
    with ⟨result, written⟩
  rw [wrote] at writes
  cases writes
  rfl

end

end Unpacks

/-! ### Fresh destinations -/

/-- The destination is an empty directory, or one that is not there yet and can be made in a directory
that is. -/
inductive IsFresh (files : FileTree) (workingDirectory : Place) : Path → Prop
  | empty {destination : Path} {place : Place} (noNull : hasNull destination.text = false)
      (located : files.locate workingDirectory destination = .ok place)
      (isDirectory : files.node? place = some .directory)
      (nothing : ∀ more, more ≠ [] → files.node? (place ++ more) = none) :
      IsFresh files workingDirectory destination
  | new {base : Path} {home : Place} {first : Text} {others : List Text}
      (noNull : hasNull (base.down (first :: others)).text = false)
      (located : files.locate workingDirectory base = .ok home)
      (isDirectory : files.node? home = some .directory)
      (nothing : files.node? (home ++ [first]) = none)
      (down : (".." : Text) ∉ first :: others)
      (short : ∀ name ∈ first :: others, byteCount name ≤ nameLimit) :
      IsFresh files workingDirectory (base.down (first :: others))

/-- A jar that can be read is a file. -/
theorem exists_place_of_entriesAt {files : FileTree} {workingDirectory : Place}
    (readable : entriesAt files workingDirectory jar = .ok entries) :
    ∃ place content stamp, files.locate workingDirectory (.ofText jar) = .ok place ∧
      files.node? place = some (.file content stamp) := by
  unfold entriesAt at readable
  split at readable
  · cases readable
  · cases readable
  · rename_i content read
    rcases lookup_of_contentAt read with ⟨stamp, found⟩
    rcases exists_of_lookup found with ⟨place, located, stands⟩
    exact ⟨place, _, stamp, located, stands⟩

/-- A directory in which nothing stands takes the classes of any jar. -/
theorem Unpacks.of_nothing (isTree : session.files.IsTree)
    (located : session.files.locate setting.host.workingDirectory base = .ok home)
    (isDirectory : session.files.node? home = some .directory)
    (way : ∀ front, front <+: names → session.files.file? (home ++ front) = none)
    (nothing : ∀ more, more ≠ [] → session.files.node? (home ++ (names ++ more)) = none)
    (readable : entriesAt session.files setting.host.workingDirectory jar = .ok entries) :
    Unpacks jar entries base home names setting session := by
  have noFile : ∀ more, session.files.file? (home ++ (names ++ more)) = none := by
    intro more
    by_cases arrives : more = []
    · rw [arrives, List.append_nil]
      exact way names (List.prefix_refl _)
    · rw [file?, nothing more arrives]
  refine ⟨isTree, located, isDirectory, ⟨way, fun front _ => noFile front, ?_⟩, ?_, readable⟩
  · intro front last _ _
    rw [List.append_assoc, nothing _ (by simp)]
    simp
  · rcases exists_place_of_entriesAt readable with ⟨place, content, stamp, jarLocated, stands⟩
    refine ⟨place, content, stamp, jarLocated, stands, ?_⟩
    rintro ⟨more, rfl⟩
    have isFile := noFile more
    rw [← List.append_assoc, file?, stands] at isFile
    cases isFile

theorem IsFresh.exists_unpacks (isTree : session.files.IsTree)
    (fresh : IsFresh session.files setting.host.workingDirectory destination)
    (readable : entriesAt session.files setting.host.workingDirectory jar = .ok entries) :
    ∃ base home names, destination = base.down names ∧ (".." : Text) ∉ names ∧
      (∀ name ∈ names, byteCount name ≤ nameLimit) ∧ hasNull destination.text = false ∧
      Unpacks jar entries base home names setting session := by
  cases fresh with
  | @empty _ place noNull located isDirectory nothing =>
    refine ⟨destination, place, [], (Path.down_nil _).symm, by simp, by simp, noNull, ?_⟩
    refine .of_nothing isTree located isDirectory (fun front isFront => ?_) nothing readable
    rw [List.prefix_nil.mp isFront, List.append_nil, file?, isDirectory]
  | @new base home first others noNull located isDirectory nothing down short =>
    have nothingBelow (more : List Text) : session.files.node? (home ++ first :: more) = none := by
      rw [List.append_cons]
      exact isTree.node?_append_eq_none nothing more
    refine ⟨base, home, first :: others, rfl, down, short, noNull, ?_⟩
    refine .of_nothing isTree located isDirectory (fun front isFront => ?_) ?_ readable
    · cases front with
      | nil => rw [List.append_nil, file?, isDirectory]
      | cons other front =>
        rcases List.cons_prefix_cons.mp isFront with ⟨rfl, -⟩
        rw [file?, nothingBelow front]
    · exact fun more _ => nothingBelow (others ++ more)

/-! ### Listed classes -/

/-- The way of any class entry, as a path: packages without dots and a file. -/
theorem exists_segments_entry (className : Text) : ∃ packages file,
    Path.segmentsOf (entry className) = packages ++ [file] ∧ (∀ name ∈ packages, '.' ∉ name) ∧
      '.' ∈ file ∧ (".." : Text) ∉ packages ++ [file] := by
  rcases exists_display_entryOf (.text className) with ⟨front, noDot, display⟩
  rcases Path.exists_segmentsOf_append noDot isFileEnding_class with ⟨packages, name, split, noDots⟩
  refine ⟨packages, name ++ entryEnding, ?_, noDots, ?_, ?_⟩
  · rw [← split, ← display]
    rfl
  · exact List.mem_append_right _ (by decide)
  · intro up
    rcases List.mem_append.mp up with isPackage | isFile
    · exact noDots _ isPackage (by decide)
    · exact isFileEnding_class.append_ne_up name (List.mem_singleton.mp isFile).symm

/-- A listed class has an entry that is its own, unless the entry has other dots than that of its
ending. -/
theorem exists_mem_of_listed (isListed : className ∈ classNames entries)
    (plain : ∀ listed ∈ entries, ofEntry? listed.1 ≠ none → HasPlainPath listed.1) :
    ∃ content, (entry className, content) ∈ entries ∧ ¬ Path.IsRooted (entry className) := by
  rcases List.mem_filterMap.mp isListed with ⟨⟨name, content⟩, member, isName⟩
  rcases plain _ member (by simp [isName]) with ⟨relative, noDot⟩
  rcases exists_stem_of_ofEntry? isName with ⟨stem, rfl, rfl⟩
  have same := entry_map_eq_iff.mpr (show '.' ∉ stem by simpa [dropEnding] using noDot)
  rw [same]
  exact ⟨content, member, relative⟩

/-- The last of the entries with a name is the one that is read. -/
theorem exists_last_of_mem {name content : Text} (member : (name, content) ∈ entries) :
    ∃ front last back, entries = front ++ (name, last) :: back ∧ (∀ other ∈ back, other.1 ≠ name) ∧
      contentOf? entries (.text name) = some last := by
  have isSome : (entries.reverse.find? fun other => JsonString.text other.1 == .text name).isSome := by
    rw [List.find?_isSome]
    exact ⟨(name, content), List.mem_reverse.mpr member, by simp⟩
  rcases Option.isSome_iff_exists.mp isSome with ⟨⟨same, last⟩, found⟩
  rcases List.find?_eq_some_iff_append.mp found with ⟨isSame, before, after, split, others⟩
  obtain rfl : same = name := by simpa using isSame
  refine ⟨after.reverse, last, before.reverse, ?_, fun other isOther => ?_, ?_⟩
  · rw [← List.reverse_reverse entries, split]
    simp
  · simpa using others other (List.mem_reverse.mp isOther)
  · rw [contentOf?, found]
    rfl

/-- No name of an entry holds a null character. -/
theorem not_mem_of_entriesAt {files : FileTree} {workingDirectory : Place}
    (readable : entriesAt files workingDirectory jar = .ok entries) {listed : Text × Text}
    (member : listed ∈ entries) : '\x00' ∉ listed.1 := by
  unfold entriesAt at readable
  split at readable
  · cases readable
  · cases readable
  · cases readable
    rcases List.mem_map.mp member with ⟨⟨name, content⟩, -, rfl⟩
    intro null
    simpa using List.mem_takeWhile_imp null

/-- Where a listed class goes, and what it holds. -/
theorem exists_isFiled_of_listed (base : Path) (isListed : className ∈ classNames entries)
    (plain : ∀ listed ∈ entries, ofEntry? listed.1 ≠ none → HasPlainPath listed.1)
    (down : (".." : Text) ∉ names) : ∃ packages file front content back,
      Path.segmentsOf (entry className) = packages ++ [file] ∧
        entries = front ++ (entry className, content) :: back ∧
        (∀ other ∈ back, other.1 ≠ entry className) ∧
        IsFiled entries (base.down names) base names packages file className content := by
  rcases exists_mem_of_listed isListed plain with ⟨_, member, relative⟩
  rcases exists_last_of_mem member with ⟨front, content, back, split, others, isLast⟩
  rcases exists_segments_entry className with ⟨packages, file, segments, noDots, dotted, entryDown⟩
  refine ⟨packages, file, front, content, back, segments, split, others, ?_, noDots, dotted, ?_, isLast⟩
  · have isDown : (base.down names).join (entry className) =
        (base.down names).down (packages ++ [file]) := by
      rw [Path.join_of_not_isRooted relative, segments]
      rfl
    rw [isDown, ← Path.down_append, List.append_assoc]
  · rw [List.append_assoc, List.mem_append, not_or]
    exact ⟨down, entryDown⟩

theorem hasNull_target
    (filed : IsFiled entries destination base names packages file className content)
    (segments : Path.segmentsOf (entry className) = packages ++ [file])
    (noNull : hasNull (base.down names).text = false) (noNullInEntry : '\x00' ∉ entry className) :
    hasNull (destination.join (entry className)).text = false := by
  rw [filed.isTarget, List.append_assoc, Path.down_append, hasNull_down, noNull, Bool.false_or,
    List.any_eq_false]
  intro name member
  rw [← segments] at member
  simpa [hasNull] using Path.not_mem_segmentsOf noNullInEntry member

/-- The session after classes have been extracted one after another. -/
def afterExtractions (jar : Text) (destination : Path) (setting : Setting) (session : Session)
    (classNames : List Text) : Session :=
  classNames.foldl (fun session className =>
    (extractClass (.text jar) (.text className) destination setting session).2) session

theorem Unpacks.afterExtractions {earlier : List Text}
    (unpacks : Unpacks jar entries base home names setting session) (down : (".." : Text) ∉ names)
    (plain : ∀ listed ∈ entries, ofEntry? listed.1 ≠ none → HasPlainPath listed.1)
    (listed : earlier ⊆ classNames entries) :
    Unpacks jar entries base home names setting
      (Archive.afterExtractions jar (base.down names) setting session earlier) := by
  induction earlier generalizing session with
  | nil => exact unpacks
  | cons className earlier ih =>
    rcases exists_isFiled_of_listed base (listed List.mem_cons_self) plain down
      with ⟨packages, file, -, content, -, -, -, -, filed⟩
    have next := (unpacks.extracts filed (Prod.eta _).symm).1
    exact ih next (List.subset_of_cons_subset listed)

/-- The names that a jar lists are turned back into the entries that they are made of exactly if these
have no other dot than that of their ending. Where all of them are such entries, with relative paths,
the listed classes can be extracted to a fresh destination, each alone or one after another: an
extraction succeeds unless a name of the entry or the path of its file is too long. It writes what the
last entry of the class holds, where the entry leads from the destination, and no other file. -/
theorem listed_extracted (readable : (entriesOf jar setting session).1 = .ok entries)
    (isTree : session.files.IsTree)
    (fresh : IsFresh session.files setting.host.workingDirectory destination)
    (plain : ∀ listed ∈ entries, ofEntry? listed.1 ≠ none → HasPlainPath listed.1) :
    (∀ stem, '$' ∉ stem → ∃ className, ofEntry? (stem ++ entryEnding) = some className ∧
        (entry className = stem ++ entryEnding ↔ '.' ∉ stem)) ∧
      listClasses (.text jar) setting session = (.ok (classNames entries), session) ∧
      ∀ earlier ⊆ classNames entries, ∀ className ∈ classNames entries,
        ∃ front content back, entries = front ++ (entry className, content) :: back ∧
          (∀ other ∈ back, other.1 ≠ entry className) ∧
          let before := afterExtractions jar destination setting session earlier
          let target := destination.join (entry className)
          let outcome := extractClass (.text jar) (.text className) destination setting before
          (outcome.1 = .ok target ↔
              (∀ name ∈ Path.segmentsOf (entry className), byteCount name ≤ nameLimit) ∧
                byteCount target.text ≤ pathLimit) ∧
            (outcome.1 = .ok target ∧ (∃ place stamp,
                outcome.2.files.locate setting.host.workingDirectory target = .ok place ∧
                  outcome.2.files.node? place = some (.file (.text content) stamp) ∧
                  ∀ other, other ≠ place → outcome.2.files.file? other = before.files.file? other) ∨
              (∃ error, outcome.1 = .error error) ∧
                ∀ place, outcome.2.files.file? place = before.files.file? place) := by
  have reads : entriesAt session.files setting.host.workingDirectory jar = .ok entries := by
    rwa [run_entriesOf] at readable
  refine ⟨fun stem noDollar => ⟨_, ofEntry?_append noDollar, entry_map_eq_iff⟩, ?_, ?_⟩
  · change (do let entries ← entriesOf jar; pure (classNames entries) : Action _) setting session = _
    rw [run_bind, run_entriesOf, reads]
    rfl
  · intro earlier listed className isListed
    rcases fresh.exists_unpacks isTree reads with ⟨base, home, names, rfl, down, short, noNull, unpacks⟩
    rcases exists_isFiled_of_listed base isListed plain down
      with ⟨packages, file, front, content, back, segments, split, others, filed⟩
    refine ⟨front, content, back, split, others, ?_⟩
    intro before target outcome
    have ready : Unpacks jar entries base home names setting before :=
      unpacks.afterExtractions down plain listed
    have member : (entry className, content) ∈ entries := by
      rw [split]
      simp
    refine ⟨⟨fun succeeds => ?_, fun fits => ?_⟩, ?_⟩
    · rcases lookup_of_run_extractClass (Prod.ext succeeds rfl) with ⟨-, -, content, stamp, found⟩
      rcases exists_of_lookup found with ⟨place, located, -⟩
      rcases locate_eq_ok_iff.mp located with ⟨fits, walked⟩
      refine ⟨fun name member => byteCount_le_of_walk walked name ?_, fits⟩
      rw [segments] at member
      rw [show target = _ from filed.isTarget, List.append_assoc]
      exact List.mem_append_right _ (List.mem_append_right _ member)
    · refine ready.extractClass_eq_ok filed ?_ ?_ fits.2
      · exact hasNull_target filed segments noNull (not_mem_of_entriesAt reads member)
      · rw [segments] at fits
        intro name member
        rw [List.append_assoc] at member
        exact (List.mem_append.mp member).elim (short name) (fits.1 name)
    · rcases ready.extracts filed (Prod.eta _).symm with ⟨-, failed | wrote⟩
      · exact .inr failed
      · exact .inl wrote

/-- A working directory with nothing but a jar. -/
def jarOnly (entries : List (Text × Text)) : Session where
  files := ⟨[(["work"], .directory), (["work", "a.jar"], .file (.archive entries) 1)]⟩
  clock := 2
  launches := []
  memory := .empty

/-- The jar of the next theorem: a class that stands in it twice, one of its nested classes, and
another class. -/
def repeatedEntries : List (Text × Text) :=
  [("p/A.class", "old"), ("p/A$1.class", "nested"), ("p/A.class", "new"), ("B.class", "other")]

/-- Of two entries of a class, the last one is extracted. -/
theorem listed_extracted_repeated :
    let before := afterExtractions "a.jar" (.ofText "out") ClassIndex.workSetting
      (jarOnly repeatedEntries) ["B"]
    let outcome := extractClass (.text "a.jar") (.text "p.A") (.ofText "out") ClassIndex.workSetting
      before
    (listClasses (.text "a.jar") ClassIndex.workSetting (jarOnly repeatedEntries)).1 =
        .ok ["p.A", "p.A", "B"] ∧
      outcome.1 = .ok (.ofText "out/p/A.class") ∧
      outcome.2.files.node? ["work", "out", "p", "A.class"] = some (.file (.text "new") 3) ∧
      ∀ other, other ≠ (["work", "out", "p", "A.class"] : Place) →
        outcome.2.files.file? other = before.files.file? other := by
  intro before outcome
  have readable : (entriesOf "a.jar" ClassIndex.workSetting (jarOnly repeatedEntries)).1 =
      .ok repeatedEntries := by decide +kernel
  have isTree : (jarOnly repeatedEntries).files.IsTree := by decide +kernel
  have fresh : IsFresh (jarOnly repeatedEntries).files ["work"] (.ofText "out") :=
    @IsFresh.new _ _ ⟨.relative, []⟩ ["work"] "out" [] (by decide) (by decide +kernel)
      (by decide +kernel) (by decide +kernel) (by decide) (by decide)
  have plain : ∀ listed ∈ repeatedEntries, ofEntry? listed.1 ≠ none → HasPlainPath listed.1 := by
    decide +kernel
  have earlier : (["B"] : List Text) ⊆ classNames repeatedEntries := by decide +kernel
  have isListed : ("p.A" : Text) ∈ classNames repeatedEntries := by decide +kernel
  have lists : classNames repeatedEntries = (["p.A", "p.A", "B"] : List Text) := by decide +kernel
  have succeeds : outcome.1 = .ok (.ofText "out/p/A.class") := by decide +kernel
  have isThere : outcome.2.files.locate ["work"] (.ofText "out/p/A.class") =
      .ok ["work", "out", "p", "A.class"] := by decide +kernel
  have holds : outcome.2.files.node? ["work", "out", "p", "A.class"] = some (.file (.text "new") 3) := by
    decide +kernel
  have extracted := listed_extracted readable isTree fresh plain
  refine ⟨by rw [extracted.2.1, lists], succeeds, holds, ?_⟩
  rcases extracted.2.2 ["B"] earlier "p.A" isListed
    with ⟨-, content, -, -, -, -, ⟨-, place, stamp, located, -, elsewhere⟩ | ⟨⟨error, failed⟩, -⟩⟩
  · cases isThere.symm.trans located
    exact elsewhere
  · cases succeeds.symm.trans failed

/-- A class is listed though no file can have the name that it would be extracted to. -/
theorem not_extracted_longName :
    let className : Text := List.replicate 250 'L'
    let session := jarOnly [(entry className, "code")]
    session.files.IsTree ∧ IsFresh session.files ["work"] (.ofText "out") ∧
      HasPlainPath (entry className) ∧ (∀ piece ∈ pieces '/' (entry className), piece ≠ []) ∧
      (listClasses (.text "a.jar") ClassIndex.workSetting session).1 = .ok [className] ∧
      (extractClass (.text "a.jar") (.text className) (.ofText "out") ClassIndex.workSetting
        session).1 = .error (.file .nameTooLong (("out/" : Text) ++ entry className)) := by
  intro className session
  have fresh : IsFresh session.files ["work"] (.ofText "out") :=
    @IsFresh.new _ _ ⟨.relative, []⟩ ["work"] "out" [] (by decide) (by decide +kernel)
      (by decide +kernel) (by decide +kernel) (by decide) (by decide)
  refine ⟨?_, fresh, ?_, ?_, ?_, ?_⟩
  all_goals decide +kernel

end Archive

end JarAtlas
