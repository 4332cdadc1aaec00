import JarAtlas.Proofs.Decompilation.Discovery
import JarAtlas.Proofs.Text.Cuts

/-!
# The order of the search

The search for the decompiler goes through directories in order and ends in the first one that has a
jar of the decompiler, of which the first by name is taken; behind the directories comes the class
path. A path that leads to no directory is passed over, but one that cannot be asked for ends the
search.
-/

namespace JarAtlas

open Action Files FileTree

namespace Tool

variable {setting : Setting} {session : Session} {files : FileTree} {workingDirectory : Place}
  {directory : Path} {name : Text}

/-! ### Names of jars -/

/-- The name of a decompiler jar: a fixed beginning and ending around a version. The version has no line
break, and one may stand behind the ending. -/
def IsCfrName (name : Text) : Prop :=
  ∃ version behind : Text, name = "cfr-" ++ version ++ ".jar" ++ behind ∧ '\n' ∉ version ∧
    (behind = [] ∨ behind = "\n")

/-- An entry of a class path that is a jar and mentions the decompiler. -/
def IsCfrEntry (entry : Text) : Prop := ("cfr" : Text) <:+: entry ∧ (".jar" : Text) <:+ entry

/-- Between the fixed beginning and the ending of a name is the version. -/
theorem exists_version_iff {bare : Text} : (match Text.after? "cfr-" bare with
      | none => false
      | some rest => Text.endsWith ".jar" rest && !(Text.dropEnding ".jar" rest).contains '\n') =
        true ↔
    ∃ version : Text, bare = "cfr-" ++ version ++ ".jar" ∧ '\n' ∉ version := by
  constructor
  · intro isJar
    split at isJar
    · cases isJar
    · rename_i rest begins
      rw [Bool.and_eq_true, Text.endsWith_iff] at isJar
      rcases isJar with ⟨⟨version, rfl⟩, noBreak⟩
      refine ⟨version, ?_, ?_⟩
      · rw [Text.eq_append_of_after? begins, List.append_assoc]
      · simpa [Text.dropEnding] using noBreak
  · rintro ⟨version, rfl, noBreak⟩
    rw [List.append_assoc, Text.after?_append]
    dsimp only
    rw [Bool.and_eq_true, Text.endsWith_iff]
    refine ⟨List.suffix_append _ _, ?_⟩
    simpa [Text.dropEnding] using noBreak

theorem isCfrJar_iff : isCfrJar name = true ↔ IsCfrName name := by
  unfold isCfrJar IsCfrName
  refine exists_version_iff.trans (exists_congr ?_)
  intro version
  have noBreakBehind : ¬ ("\n" : Text) <:+ "cfr-" ++ version ++ ".jar" := by
    rintro ⟨front, same⟩
    have last := congrArg List.getLast? same
    rw [List.getLast?_append, List.getLast?_append] at last
    cases last
  by_cases broken : Text.endsWith "\n" name = true
  · rw [if_pos broken]
    rcases Text.endsWith_iff.mp broken with ⟨bare, rfl⟩
    rw [show (bare ++ "\n" : Text).dropLast = bare from List.dropLast_concat]
    constructor
    · rintro ⟨rfl, noBreak⟩
      exact ⟨_, rfl, noBreak, .inr rfl⟩
    · rintro ⟨behind, same, noBreak, rfl | rfl⟩
      · rw [List.append_nil] at same
        exact absurd (same ▸ List.suffix_append _ _) noBreakBehind
      · exact ⟨List.append_cancel_right same, noBreak⟩
  · rw [if_neg broken]
    constructor
    · rintro ⟨rfl, noBreak⟩
      exact ⟨[], (List.append_nil _).symm, noBreak, .inl rfl⟩
    · rintro ⟨behind, rfl, noBreak, rfl | rfl⟩
      · exact ⟨List.append_nil _, noBreak⟩
      · exact absurd (Text.endsWith_iff.mpr (List.suffix_append _ _)) broken

/-! ### One directory -/

/-- In the directory that a path leads to, something stands under the name. -/
def Holds (files : FileTree) (workingDirectory : Place) (directory : Path) (name : Text) : Prop :=
  ∃ place, files.locate workingDirectory directory = .ok place ∧
    files.node? place = some .directory ∧ files.node? (place ++ [name]) ≠ none

/-- The name is the least of a decompiler jar in a directory, by code points. -/
structure IsFirstJar (files : FileTree) (workingDirectory : Place) (directory : Path)
    (name : Text) : Prop where
  isThere : Holds files workingDirectory directory name
  isJar : IsCfrName name
  least : ∀ other, Holds files workingDirectory directory other → IsCfrName other →
    name = other ∨ List.Lex (fun left right => left.toNat < right.toNat) name other

/-- A path can be asked for, but it leads to no directory with a decompiler jar. -/
structure IsPassed (files : FileTree) (workingDirectory : Place) (directory : Path) : Prop where
  isAsked : ¬ Refuses files workingDirectory directory
  noJar : ∀ name, Holds files workingDirectory directory name → ¬ IsCfrName name

/-- The first decompiler jar by name among the names in a place. -/
def firstJar? (files : FileTree) (place : Place) : Option Text :=
  ((files.names place).mergeSort Text.precedes).find? isCfrJar

theorem run_cfrIn_of_lookup {place : Place}
    (located : session.files.locate setting.host.workingDirectory directory = .ok place)
    (stands : session.files.node? place = some .directory) :
    cfrIn directory setting session =
      (.ok ((firstJar? session.files place).map directory.join), session) := by
  have found := foundAt_of_lookup (lookup_eq_directory_iff.mpr ⟨place, located, stands⟩)
  unfold cfrIn
  rw [run_bind, run_isDirectory, found]
  simp only [Except.map, beq_self_eq_true, if_true]
  unfold namesIn
  simp only [run_bind, run_host, run_get, located]
  rfl

theorem run_cfrIn_of_noDirectory
    (asked : ¬ Refuses session.files setting.host.workingDirectory directory)
    (noDirectory : session.files.lookup setting.host.workingDirectory directory ≠ .ok .directory) :
    cfrIn directory setting session = (.ok none, session) := by
  unfold cfrIn
  rw [run_bind, run_isDirectory, foundAt_of_not_refuses asked]
  cases found : session.files.lookup setting.host.workingDirectory directory with
  | error fault => rfl
  | ok node =>
    cases node with
    | directory => exact absurd found noDirectory
    | file content stamp => rfl

theorem run_cfrIn_of_refuses
    (refuses : Refuses session.files setting.host.workingDirectory directory) :
    cfrIn directory setting session =
      (.error (.file .nameTooLong directory.text), session) := by
  unfold cfrIn
  rw [run_bind, run_isDirectory, foundAt_of_refuses refuses]
  rfl

section

variable {place : Place} (located : files.locate workingDirectory directory = .ok place)
  (stands : files.node? place = some .directory)

include located stands

theorem holds_iff : Holds files workingDirectory directory name ↔ name ∈ files.names place := by
  rw [mem_names]
  constructor
  · rintro ⟨other, otherLocated, -, isThere⟩
    cases located.symm.trans otherLocated
    exact isThere
  · exact fun isThere => ⟨place, located, stands, isThere⟩

theorem isFirstJar_of_firstJar? (found : firstJar? files place = some name) :
    IsFirstJar files workingDirectory directory name where
  isThere := by
    rw [holds_iff located stands]
    exact List.mem_mergeSort.mp (List.mem_of_find?_eq_some found)
  isJar := isCfrJar_iff.mp (List.find?_some found)
  least := by
    intro other isThere isJar
    rw [holds_iff located stands] at isThere
    exact Text.precedes_iff.mp
      (Text.precedes_of_find?_mergeSort found isThere (isCfrJar_iff.mpr isJar))

theorem firstJar?_eq_none_iff : firstJar? files place = none ↔
    ∀ name, Holds files workingDirectory directory name → ¬ IsCfrName name := by
  unfold firstJar?
  rw [List.find?_eq_none]
  simp only [List.mem_mergeSort, holds_iff located stands, isCfrJar_iff]

theorem IsFirstJar.firstJar?_eq (first : IsFirstJar files workingDirectory directory name) :
    firstJar? files place = some name := by
  cases found : firstJar? files place with
  | none =>
    exact absurd first.isJar ((firstJar?_eq_none_iff located stands).mp found _ first.isThere)
  | some other =>
    -- Each of the two names precedes the other.
    have otherFirst := isFirstJar_of_firstJar? located stands found
    have before := Text.precedes_iff.mpr (first.least other otherFirst.isThere otherFirst.isJar)
    have behind := Text.precedes_iff.mpr (otherFirst.least name first.isThere first.isJar)
    rw [Text.precedes_antisymm before behind]

end

theorem run_cfrIn_of_isFirstJar
    (first : IsFirstJar session.files setting.host.workingDirectory directory name) :
    cfrIn directory setting session = (.ok (some (directory.join name)), session) := by
  rcases first.isThere with ⟨place, located, stands, -⟩
  rw [run_cfrIn_of_lookup located stands, first.firstJar?_eq located stands]
  rfl

theorem run_cfrIn_of_isPassed
    (passed : IsPassed session.files setting.host.workingDirectory directory) :
    cfrIn directory setting session = (.ok none, session) := by
  by_cases isDirectory :
      session.files.lookup setting.host.workingDirectory directory = .ok .directory
  · rcases lookup_eq_directory_iff.mp isDirectory with ⟨place, located, stands⟩
    rw [run_cfrIn_of_lookup located stands, (firstJar?_eq_none_iff located stands).mpr passed.noJar]
    rfl
  · exact run_cfrIn_of_noDirectory passed.isAsked isDirectory

/-- The search ends in a directory that is not passed over. -/
theorem refuses_or_exists_first (stops : ¬ IsPassed files workingDirectory directory) :
    Refuses files workingDirectory directory ∨
      ∃ name, IsFirstJar files workingDirectory directory name := by
  by_cases refuses : Refuses files workingDirectory directory
  · exact .inl refuses
  · right
    have someJar : ¬ ∀ name, Holds files workingDirectory directory name → ¬ IsCfrName name :=
      fun noJar => stops ⟨refuses, noJar⟩
    push Not at someJar
    rcases someJar with ⟨_, ⟨place, located, stands, -⟩, -⟩
    cases found : firstJar? files place with
    | none => exact absurd ⟨refuses, (firstJar?_eq_none_iff located stands).mp found⟩ stops
    | some name => exact ⟨name, isFirstJar_of_firstJar? located stands found⟩

/-! ### The class path -/

theorem isCfrEntry_iff {entry : Text} :
    (Text.mentions "cfr" entry && Text.endsWith ".jar" entry) = true ↔ IsCfrEntry entry := by
  rw [Bool.and_eq_true, Text.mentions_iff, Text.endsWith_iff, IsCfrEntry]

section

variable {entries : List Text}

theorem find?_eq_some_iff_isCfrEntry {entry : Text} :
    (entries.find? fun entry => Text.mentions "cfr" entry && Text.endsWith ".jar" entry) =
        some entry ↔
      IsCfrEntry entry ∧ ∃ before behind, entries = before ++ entry :: behind ∧
        ∀ other ∈ before, ¬ IsCfrEntry other := by
  simp only [List.find?_eq_some_iff_append, isCfrEntry_iff, Bool.not_eq_true', Bool.eq_false_iff,
    ne_eq]

theorem find?_eq_none_iff_isCfrEntry :
    (entries.find? fun entry => Text.mentions "cfr" entry && Text.endsWith ".jar" entry) = none ↔
      ∀ entry ∈ entries, ¬ IsCfrEntry entry := by
  simp only [List.find?_eq_none, isCfrEntry_iff]

end

/-! ### The whole search -/

/-- What the search for the decompiler comes to, in directories in order and then on a class path. -/
inductive Discovers (files : FileTree) (workingDirectory : Place) (directories : List Path)
    (entries : List Text) : Except Error (Option Text) → Prop
  /-- A directory has jars of the decompiler, and none before it has one: its first by name. -/
  | inDirectory {before behind : List Path} {directory : Path} {name : Text}
      (split : directories = before ++ directory :: behind)
      (passed : ∀ other ∈ before, IsPassed files workingDirectory other)
      (first : IsFirstJar files workingDirectory directory name) :
      Discovers files workingDirectory directories entries (.ok (some (directory.join name).text))
  /-- No directory has one, but the class path has: its first. -/
  | onClassPath {before behind : List Text} {entry : Text}
      (passed : ∀ directory ∈ directories, IsPassed files workingDirectory directory)
      (split : entries = before ++ entry :: behind) (others : ∀ other ∈ before, ¬ IsCfrEntry other)
      (isEntry : IsCfrEntry entry) :
      Discovers files workingDirectory directories entries (.ok (some entry))
  /-- There is none. -/
  | nowhere (passed : ∀ directory ∈ directories, IsPassed files workingDirectory directory)
      (others : ∀ entry ∈ entries, ¬ IsCfrEntry entry) :
      Discovers files workingDirectory directories entries (.ok none)
  /-- A directory cannot be asked for, and none before it has one. -/
  | refused {before behind : List Path} {directory : Path}
      (split : directories = before ++ directory :: behind)
      (passed : ∀ other ∈ before, IsPassed files workingDirectory other)
      (refuses : Refuses files workingDirectory directory) :
      Discovers files workingDirectory directories entries
        (.error (.file .nameTooLong directory.text))

/-- Directories that are passed over do not matter. -/
theorem run_cfrInAny_append {before : List Path} (behind : List Path)
    (passed : ∀ other ∈ before, IsPassed session.files setting.host.workingDirectory other) :
    cfrInAny (before ++ behind) setting session = cfrInAny behind setting session := by
  induction before with
  | nil => rfl
  | cons directory before ih =>
    rw [List.forall_mem_cons] at passed
    rw [List.cons_append, cfrInAny, run_bind, run_cfrIn_of_isPassed passed.1]
    exact ih passed.2

theorem run_cfrInAny_of_passed {directories : List Path} (passed : ∀ directory ∈ directories,
      IsPassed session.files setting.host.workingDirectory directory) :
    cfrInAny directories setting session = (.ok none, session) := by
  have bare := run_cfrInAny_append [] passed
  rwa [List.append_nil] at bare

section

variable (noneGiven : given setting.config.cfrPath = none)

include noneGiven

/-- Without a configured path, the class path is searched behind the directories. -/
theorem run_findCfr : findCfr setting session =
    (do
      let found ← cfrInAny (cfrDirectories setting)
      return found.elim ((Text.pieces ':' setting.config.classpath).find? fun entry =>
        Text.mentions "cfr" entry && Text.endsWith ".jar" entry) fun path => some path.text :
      Action (Option Text)) setting session := by
  have asks : (read : Action Setting) setting session = (.ok setting, session) := rfl
  unfold findCfr
  rw [run_bind_of_ok asks, noneGiven]
  dsimp only
  rw [run_bind, run_bind]
  rcases cfrInAny (cfrDirectories setting) setting session with ⟨result, after⟩
  cases result with
  | error error => rfl
  | ok found => cases found <;> rfl

theorem run_findCfr_of_found {path : Path}
    (found : cfrInAny (cfrDirectories setting) setting session = (.ok (some path), session)) :
    findCfr setting session = (.ok (some path.text), session) := by
  rw [run_findCfr noneGiven, run_bind_of_ok found]
  rfl

theorem run_findCfr_of_passed (passed : ∀ directory ∈ cfrDirectories setting,
      IsPassed session.files setting.host.workingDirectory directory) :
    findCfr setting session =
      (.ok ((Text.pieces ':' setting.config.classpath).find? fun entry =>
        Text.mentions "cfr" entry && Text.endsWith ".jar" entry), session) := by
  rw [run_findCfr noneGiven, run_bind_of_ok (run_cfrInAny_of_passed passed)]
  rfl

theorem run_findCfr_of_failed {error : Error}
    (failed : cfrInAny (cfrDirectories setting) setting session = (.error error, session)) :
    findCfr setting session = (.error error, session) := by
  rw [run_findCfr noneGiven, run_bind, failed]

theorem run_findCfr_of_discovers {result : Except Error (Option Text)}
    (discovers : Discovers session.files setting.host.workingDirectory (cfrDirectories setting)
      (Text.pieces ':' setting.config.classpath) result) :
    findCfr setting session = (result, session) := by
  cases discovers with
  | inDirectory split passed first =>
    apply run_findCfr_of_found noneGiven
    rw [split, run_cfrInAny_append _ passed, cfrInAny,
      run_bind_of_ok (run_cfrIn_of_isFirstJar first)]
    rfl
  | onClassPath passed split others isEntry =>
    rw [run_findCfr_of_passed noneGiven passed,
      find?_eq_some_iff_isCfrEntry.mpr ⟨isEntry, _, _, split, others⟩]
  | nowhere passed others =>
    rw [run_findCfr_of_passed noneGiven passed, find?_eq_none_iff_isCfrEntry.mpr others]
  | refused split passed refuses =>
    apply run_findCfr_of_failed noneGiven
    rw [split, run_cfrInAny_append _ passed, cfrInAny, run_bind, run_cfrIn_of_refuses refuses]

end

/-- Every search comes to something. -/
theorem exists_discovers (files : FileTree) (workingDirectory : Place) (directories : List Path)
    (entries : List Text) : ∃ result, Discovers files workingDirectory directories entries result := by
  classical
  -- The search ends in the first directory that is not passed over, whatever the reason.
  cases stops : directories.find? fun directory => ¬ IsPassed files workingDirectory directory with
  | some directory =>
    rw [List.find?_eq_some_iff_append] at stops
    simp only [decide_eq_true_eq, Bool.not_eq_true', decide_eq_false_iff_not, not_not] at stops
    rcases stops with ⟨isStop, before, behind, split, passed⟩
    rcases refuses_or_exists_first isStop with refuses | ⟨name, first⟩
    · exact ⟨_, .refused split passed refuses⟩
    · exact ⟨_, .inDirectory split passed first⟩
  | none =>
    simp only [List.find?_eq_none, decide_eq_true_eq, not_not] at stops
    cases found : entries.find? fun entry =>
        Text.mentions "cfr" entry && Text.endsWith ".jar" entry with
    | some entry =>
      rcases find?_eq_some_iff_isCfrEntry.mp found with ⟨isEntry, before, behind, split, others⟩
      exact ⟨_, .onClassPath stops split others isEntry⟩
    | none => exact ⟨_, .nowhere stops (find?_eq_none_iff_isCfrEntry.mp found)⟩

/-- The search answers exactly what the order of directories, names and class path says. -/
theorem findCfr_eq_iff_discovers (noneGiven : given setting.config.cfrPath = none)
    {result : Except Error (Option Text)} : (findCfr setting session).1 = result ↔
      Discovers session.files setting.host.workingDirectory (cfrDirectories setting)
        (Text.pieces ':' setting.config.classpath) result := by
  constructor
  · rintro rfl
    rcases exists_discovers session.files setting.host.workingDirectory (cfrDirectories setting)
      (Text.pieces ':' setting.config.classpath) with ⟨result, discovers⟩
    rwa [run_findCfr_of_discovers noneGiven discovers]
  · intro discovers
    rw [run_findCfr_of_discovers noneGiven discovers]

end Tool

end JarAtlas
