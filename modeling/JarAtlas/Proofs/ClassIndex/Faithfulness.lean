import JarAtlas.Proofs.ClassIndex.Indexing
import JarAtlas.Proofs.ClassIndex.LookupCache
import JarAtlas.Proofs.ClassIndex.WrittenIndex

/-!
# The index tells what is in the jars

After a scan, lookups and listings answer what the jars of the dependencies hold, although they only
read the index file. The way there is the file form: what has been found is written, the file is
read back to the same value, and the table of that value is the table of the entries.
-/

namespace JarAtlas.ClassIndex

open Action Text

section

variable {setting : Setting} {session after : Session} {project source : Text} {stamp : Int}
  {value : Json}

/-- What reading the index answers where its file holds the form of a value. -/
theorem valueOf_contentAt
    (isThere : after.files.lookup setting.host.workingDirectory (pathOf project) =
      .ok (.file (.text source) stamp))
    (noNull : Files.hasNull (pathOf project).text = false) (reads : Json.read source = .ok value) :
    valueOf (pathOf project) (Files.contentAt after.files setting.host.workingDirectory
      (pathOf project).text) = .ok value := by
  rw [contentAt_pathOf isThere, noNull]
  simp only [valueOf, Bool.false_eq_true, if_false, reads]

/-- A lookup reads the table of a file that carries a time not yet remembered. -/
theorem lookupTable_of_reads {table : LookupTable}
    (isThere : after.files.lookup setting.host.workingDirectory (pathOf project) =
      .ok (.file (.text source) stamp))
    (noNull : Files.hasNull (pathOf project).text = false) (reads : Json.read source = .ok value)
    (gives : tableIn value = .ok table)
    (newTime : remembered? after.memory (pathOf project).text stamp = none) :
    (lookupTable project setting after).1 = .ok table := by
  have read : readTable (pathOf project) setting after = (.ok table, after) := by
    rw [run_readTable, valueOf_contentAt isThere noNull reads]
    exact congrArg (·, after) gives
  rw [run_lookupTable, Files.foundAt_of_lookup isThere]
  simp only [newTime, read]

end

/-- After a scan that has found no index or replaced it, the first jar that holds a class is found
for it, the classes are listed where they first occur, the counts are those of the jars, and a
further scan answers the same, launches nothing and writes nothing. The jars are those that are named
once an index to be replaced is gone. Counts with more than `digitLimit` digits are left out: no
reader takes such a number. -/
theorem scan_faithful {setting : Setting} {session after : Session} {project : Text} {force : Bool}
    {summary : ScanSummary}
    (unindexed : force = true ∨
      Files.foundAt session.files setting.host.workingDirectory (pathOf project) = .ok none)
    (scanned : scan project force setting session = (.ok summary, after))
    (newTime : ∀ content stamp, after.files.lookup setting.host.workingDirectory (pathOf project) =
      .ok (.file content stamp) → remembered? session.memory (pathOf project).text stamp = none)
    (short : ∀ count : Nat, summary.jarCount = .int count ∨ summary.classCount = .int count →
      (ofNat count).length ≤ digitLimit) :
    ∃ jars, (dependencyJars project setting (withoutIndex project setting session)).1 = .ok jars ∧
      let files := (withoutIndex project setting session).files
      let directory := setting.host.workingDirectory
      let names := jars.flatMap (classesIn files directory)
      (∀ className, (jarOf? (.text className) project setting after).1 =
          .ok ((jars.find? (Holds files directory className)).map Json.text)) ∧
        (classNames project setting after).1 = .ok (names.eraseDups.map Json.text) ∧
        summary.jarCount = .int (jars.countP fun jar => (entryNames? files directory jar).isSome) ∧
        summary.classCount = .int names.length ∧
        scan project false setting after = (.ok summary, after) := by
  rcases exists_of_run_build (build_of_scan unindexed scanned)
    with ⟨jars, found, time, stamp, lists, isFound, rfl, noNull, isThere⟩
  refine ⟨jars, lists, ?_⟩
  intro files directory names
  have sameMemory : after.memory = session.memory := by
    have kept := keeps_scan project force setting session
    rw [scanned] at kept
    exact kept
  have notRemembered : remembered? after.memory (pathOf project).text stamp = none := by
    rw [sameMemory]
    exact newTime _ _ isThere
  have reads : Json.read (json (summaryOf (pathOf project) found.jars found.entries) found.entries
      time).write = .ok _ := read_write_json time (short _ (.inl rfl)) (short _ (.inr rfl))
  rcases tableIn_json (summaryOf (pathOf project) found.jars found.entries) found.entries time
    with ⟨table, gives, isTable⟩
  have looksUp := lookupTable_of_reads isThere noNull reads gives notRemembered
  have classes : found.entries.map Entry.className = names := by
    rw [isFound.entries, className_entriesOf]
  refine ⟨?_, ?_, ?_, ?_, ?_⟩
  · intro className
    have first : (found.entries.find? (·.className = className)).map Entry.jar =
        jars.find? (Holds files directory className) := by
      rw [isFound.entries]
      exact find?_entriesOf _ _ _ _
    rw [run_jarOf?, looksUp, ← first, Option.map_map]
    exact congrArg Except.ok (isTable.jars className)
  · rw [run_classNames, Files.foundAt_of_lookup isThere, looksUp, ← classes]
    exact congrArg Except.ok isTable.names
  · rw [isFound.readable]
    rfl
  · rw [← classes, List.length_map]
    rfl
  · rw [run_scan_unforced, Files.foundAt_of_lookup isThere, valueOf_contentAt isThere noNull reads]
    exact congrArg (·, after) (summaryIn_json _ _ time)

/-- Two jars in a repository, both with the class `p.A`, and a project whose index is no JSON text.
The second jar has a class, too, whose name needs escapes in the file. -/
def repositoryTree : FileTree :=
  ⟨[(["work"], .directory), (["work", fileName], .file (.text "stale") 1), (["m2"], .directory),
    (["m2", "g"], .directory), (["m2", "g", "a"], .directory), (["m2", "g", "a", "1"], .directory),
    (["m2", "g", "a", "1", "a-1.jar"],
      .file (.archive [("p/A.class", []), ("p/A$B.class", [])]) 2),
    (["m2", "g", "b"], .directory), (["m2", "g", "b", "1"], .directory),
    (["m2", "g", "b", "1", "b-1.jar"],
      .file (.archive [("p/A.class", []), ("\"\u00e9\\.class", [])]) 3)]⟩

/-- A setting in which Maven names both jars. -/
def repositorySetting : Setting where
  host :=
    { workSetting.host with
      answer := fun _ => .ended 0 "[INFO] g:a:jar:1:compile\n[INFO] g:b:jar:1:compile\n" [] }
  config := { Config.standard with mavenRepository := some "/m2" }

/-- The counts of a summary, where both are whole numbers. -/
def countsOf (summary : ScanSummary) : Option (Int × Int) :=
  match summary.jarCount, summary.classCount with
  | .int jars, .int classes => some (jars, classes)
  | _, _ => none

theorem eq_or_eq_of_countsOf {summary : ScanSummary} {jars classes count : Nat}
    (counted : countsOf summary = some ((jars : Int), (classes : Int)))
    (isCount : summary.jarCount = .int count ∨ summary.classCount = .int count) :
    count = jars ∨ count = classes := by
  unfold countsOf at counted
  split at counted
  · rename_i jarsCounted classesCounted
    cases counted
    rcases isCount with same | same
    · rw [jarsCounted] at same
      injection same
      omega
    · rw [classesCounted] at same
      injection same
      omega
  · cases counted

def repositorySession : Session where
  files := repositoryTree
  clock := 4
  launches := []
  memory := .empty

/-- A scan that replaces an index finds the first of two jars with a class. -/
theorem scan_faithful_replaced :
    ∃ summary after,
      scan "." true repositorySetting repositorySession = (.ok summary, after) ∧
      countsOf summary = some (2, 3) ∧
      (jarOf? (.text "p.A") "." repositorySetting after).1 =
        .ok (some (.text "/m2/g/a/1/a-1.jar")) ∧
      (classNames "." repositorySetting after).1 = .ok [.text "p.A", .text "\"\u00e9\\"] := by
  have counted : (scan "." true repositorySetting repositorySession).1.toOption.bind countsOf =
      some (2, 3) := by
    decide +kernel
  rcases scanned : scan "." true repositorySetting repositorySession with ⟨result, after⟩
  rw [scanned] at counted
  cases result with
  | error error => cases counted
  | ok summary =>
    have short : ∀ count : Nat, summary.jarCount = .int count ∨ summary.classCount = .int count →
        (ofNat count).length ≤ digitLimit := by
      intro count isCount
      have oneOf : count = 2 ∨ count = 3 := eq_or_eq_of_countsOf counted isCount
      rcases oneOf with rfl | rfl
      · decide
      · decide
    have listed : (dependencyJars "." repositorySetting
        (withoutIndex "." repositorySetting repositorySession)).1 =
        .ok ["/m2/g/a/1/a-1.jar", "/m2/g/b/1/b-1.jar"] := by
      decide +kernel
    rcases scan_faithful (.inl rfl) scanned (fun _ _ _ => rfl) short
      with ⟨jars, lists, finds, names, -⟩
    cases lists.symm.trans listed
    refine ⟨summary, after, rfl, counted, (finds "p.A").trans ?_, names.trans ?_⟩
    · have first : (["/m2/g/a/1/a-1.jar", "/m2/g/b/1/b-1.jar"] : List Text).find?
          (Holds (withoutIndex "." repositorySetting repositorySession).files ["work"] "p.A") =
          some "/m2/g/a/1/a-1.jar" := by
        decide +kernel
      exact congrArg (fun jar => Except.ok (jar.map Json.text)) first
    · have distinct : ((["/m2/g/a/1/a-1.jar", "/m2/g/b/1/b-1.jar"] : List Text).flatMap
          (classesIn (withoutIndex "." repositorySetting repositorySession).files
            ["work"])).eraseDups = (["p.A", "\"\u00e9\\"] : List Text) := by
        decide +kernel
      exact congrArg (fun names : List Text => Except.ok (names.map Json.text)) distinct

end JarAtlas.ClassIndex
