import JarAtlas.Proofs.Files.Temporary

/-!
# Comparing runs

An operation respects a relation between sessions if from sessions that are alike it answers the same
and leads to sessions that are alike. What is built of such operations respects the relation, too.
Making the directories of a path that leads straight down respects how the trees look around that
way, whatever they hold elsewhere.
-/

namespace JarAtlas

namespace Action

variable {α β : Type} {Alike : Session → Session → Prop} {setting : Setting}

/-- From sessions that are alike, the operation answers the same and leads to sessions that are alike.
-/
def Respects (Alike : Session → Session → Prop) (setting : Setting) (action : Action α) : Prop :=
  ∀ session other, Alike session other →
    (action setting other).1 = (action setting session).1 ∧
      Alike (action setting session).2 (action setting other).2

namespace Respects

variable {action : Action α}

theorem pure (answer : α) : Respects Alike setting (pure answer : Action α) :=
  fun _ _ alike => ⟨rfl, alike⟩

theorem fail (error : Error) : Respects Alike setting (fail error : Action α) :=
  fun _ _ alike => ⟨rfl, alike⟩

theorem ofExcept (result : Except Error α) : Respects Alike setting (ofExcept result) := by
  intro session other alike
  rw [run_ofExcept, run_ofExcept]
  exact ⟨rfl, alike⟩

theorem host : Respects Alike setting host := fun _ _ alike => ⟨rfl, alike⟩

theorem config : Respects Alike setting config := fun _ _ alike => ⟨rfl, alike⟩

theorem attempt (respects : Respects Alike setting action) :
    Respects Alike setting action.attempt := by
  intro session other alike
  rcases respects session other alike with ⟨same, alikeAfter⟩
  exact ⟨congrArg Except.ok same, alikeAfter⟩

theorem bind {next : α → Action β} (first : Respects Alike setting action)
    (others : ∀ answer, Respects Alike setting (next answer)) :
    Respects Alike setting (action >>= next) := by
  intro session other alike
  rcases first session other alike with ⟨same, alikeBetween⟩
  rw [run_bind, run_bind]
  rcases outcome : action setting session with ⟨result, between⟩
  rcases otherOutcome : action setting other with ⟨otherResult, otherBetween⟩
  rw [outcome, otherOutcome] at same alikeBetween
  cases same
  cases result with
  | error error => exact ⟨rfl, alikeBetween⟩
  | ok answer => exact others answer between otherBetween alikeBetween

end Respects

end Action

namespace FileTree

variable {tree other : FileTree} {workingDirectory here place target : Place} {segments : List Text}

/-- A way that never leads back up visits what its names say. -/
theorem prefix_of_mem_visited (down : (".." : Text) ∉ segments)
    (isVisited : place ∈ tree.visited here segments) :
    ∃ way, way <+: segments ∧ place = here ++ way := by
  induction segments generalizing here with
  | nil =>
    rw [visited, List.mem_singleton] at isVisited
    exact ⟨[], List.prefix_refl _, by rw [isVisited, List.append_nil]⟩
  | cons segment segments ih =>
    rw [List.mem_cons, not_or] at down
    rw [visited, if_neg (Ne.symm down.1)] at isVisited
    rcases List.mem_cons.mp isVisited with rfl | later
    · exact ⟨[], List.nil_prefix, (List.append_nil _).symm⟩
    · split at later
      · split_ifs at later
        · cases later
        · rcases ih down.2 later with ⟨way, isPrefix, rfl⟩
          refine ⟨segment :: way, ?_, by simp⟩
          exact (List.prefix_cons_inj segment).mpr isPrefix
      · cases later

/-- One place is on the way to the other. -/
def Comparable (place target : Place) : Prop := place <+: target ∨ target <+: place

theorem Comparable.of_prefix {way : Place} (comparable : Comparable place target)
    (isPrefix : way <+: place) : Comparable way target := by
  rcases comparable with above | below
  · exact .inl (isPrefix.trans above)
  · exact List.prefix_or_prefix_of_prefix isPrefix below

/-- The trees hold the same on the way to a place and below it. -/
def AlikeAround (target : Place) (tree other : FileTree) : Prop :=
  ∀ place, Comparable place target → other.node? place = tree.node? place

namespace AlikeAround

theorem set (alike : AlikeAround target tree other) (place : Place) (node : Node) :
    AlikeAround target (tree.set place node) (other.set place node) := by
  intro here comparable
  by_cases root : here = []
  · rw [root]
    rfl
  by_cases isPlace : here = place
  · subst isPlace
    rw [node?_set_self node root, node?_set_self node root]
  · rw [node?_set_ne node isPlace, node?_set_ne node isPlace, alike here comparable]

theorem locate (alike : AlikeAround target tree other) (down : (".." : Text) ∉ segments)
    (comparable : Comparable segments target) :
    other.locate workingDirectory ⟨.absolute, segments⟩ =
      tree.locate workingDirectory ⟨.absolute, segments⟩ := by
  have same : other.walk [] segments = tree.walk [] segments := by
    refine (walk_congr fun place isVisited => alike place ?_).1
    rcases prefix_of_mem_visited down isVisited with ⟨way, isPrefix, rfl⟩
    exact comparable.of_prefix isPrefix
  rw [locate_eq, locate_eq]
  simp [startOf, same]

theorem node?_of_locate (alike : AlikeAround target tree other) (down : (".." : Text) ∉ segments)
    (comparable : Comparable segments target)
    (located : tree.locate workingDirectory ⟨.absolute, segments⟩ = .ok place) :
    other.node? place = tree.node? place := by
  have isPlace := eq_append_of_walk down (locate_eq_ok_iff.mp located).2
  simp only [reduceCtorEq, if_false, List.nil_append] at isPlace
  exact alike place (isPlace ▸ comparable)

theorem lookup (alike : AlikeAround target tree other) (down : (".." : Text) ∉ segments)
    (comparable : Comparable segments target) :
    other.lookup workingDirectory ⟨.absolute, segments⟩ =
      tree.lookup workingDirectory ⟨.absolute, segments⟩ := by
  rw [FileTree.lookup, FileTree.lookup, alike.locate down comparable]
  cases located : tree.locate workingDirectory ⟨.absolute, segments⟩ with
  | error fault => rfl
  | ok place =>
    dsimp only
    rw [alike.node?_of_locate down comparable located]

end AlikeAround

/-! ### Trees that differ in one file -/

/-- The trees hold the same but for one place, where neither holds a directory. -/
structure AgreeBut (place : Place) (tree other : FileTree) : Prop where
  elsewhere : ∀ here, here ≠ place → other.node? here = tree.node? here
  noDirectory : tree.node? place ≠ some .directory
  otherNoDirectory : other.node? place ≠ some .directory

namespace AgreeBut

variable {path : Path}

theorem symm (agree : AgreeBut place tree other) : AgreeBut place other tree :=
  ⟨fun here apart => (agree.elsewhere here apart).symm, agree.otherNoDirectory, agree.noDirectory⟩

theorem keepsDirectories (agree : AgreeBut place tree other) : tree.KeepsDirectories other := by
  intro here stands
  rw [agree.elsewhere here, stands]
  rintro rfl
  exact agree.noDirectory stands

/-- A path leads to the same in both trees, or to the place where they differ. -/
theorem lookup (agree : AgreeBut place tree other)
    (apart : tree.locate workingDirectory path ≠ .ok place) :
    other.lookup workingDirectory path = tree.lookup workingDirectory path ∨
      ∃ fault otherFault, fault.isAbsence = true ∧ otherFault.isAbsence = true ∧
        tree.lookup workingDirectory path = .error fault ∧
        other.lookup workingDirectory path = .error otherFault := by
  have decided {fault : FileFault} (present : fault.isAbsence = false) :
      (Except.error fault : Except FileFault Place) ≠ .error .missing ∧
        (Except.error fault : Except FileFault Place) ≠ .error .notDirectory := by
    constructor
    all_goals
      intro same
      cases same
      cases present
  unfold FileTree.lookup
  cases located : tree.locate workingDirectory path with
  | ok reached =>
    rw [agree.keepsDirectories.locate located]
    dsimp only
    rw [agree.elsewhere reached fun same => apart (same ▸ located)]
    exact .inl rfl
  | error fault =>
    cases absence : fault.isAbsence with
    | false =>
      rw [agree.keepsDirectories.locate_eq located (decided absence)]
      exact .inl rfl
    | true =>
      cases otherLocated : other.locate workingDirectory path with
      | ok reached =>
        rw [agree.symm.keepsDirectories.locate otherLocated] at located
        cases located
      | error otherFault =>
        cases otherAbsence : otherFault.isAbsence with
        | true => exact .inr ⟨fault, otherFault, absence, otherAbsence, rfl, rfl⟩
        | false =>
          rw [agree.symm.keepsDirectories.locate_eq otherLocated (decided otherAbsence)] at located
          cases located
          rw [absence] at otherAbsence
          cases otherAbsence

end AgreeBut

end FileTree

namespace Files

open Action FileTree

variable {setting : Setting} {target : Place} {segments : List Text}

/-- The files of the sessions are alike around a place. -/
def AlikeAround (target : Place) (session other : Session) : Prop :=
  FileTree.AlikeAround target session.files other.files

theorem respects_makeDirectory (down : (".." : Text) ∉ segments)
    (comparable : Comparable segments target) :
    Respects (AlikeAround target) setting (makeDirectory ⟨.absolute, segments⟩) := by
  intro session other alike
  rw [run_makeDirectory, run_makeDirectory]
  split_ifs with null
  · exact ⟨rfl, alike⟩
  · simp only [FileTree.makeDirectory, alike.locate down comparable]
    cases located : session.files.locate setting.host.workingDirectory ⟨.absolute, segments⟩ with
    | error fault => exact ⟨rfl, alike⟩
    | ok place =>
      simp only [alike.node?_of_locate down comparable located]
      cases session.files.node? place with
      | none => exact ⟨rfl, alike.set place .directory⟩
      | some node => exact ⟨rfl, alike⟩

theorem respects_unlessDirectory (down : (".." : Text) ∉ segments)
    (comparable : Comparable segments target) (error : Error) :
    Respects (AlikeAround target) setting
      (do unless ← isDirectory ⟨.absolute, segments⟩ do Action.fail error) := by
  intro session other alike
  have same : foundAt other.files setting.host.workingDirectory ⟨.absolute, segments⟩ =
      foundAt session.files setting.host.workingDirectory ⟨.absolute, segments⟩ := by
    rw [foundAt, foundAt, alike.lookup down comparable]
  rw [run_unlessDirectory, run_unlessDirectory, same]
  split <;> exact ⟨rfl, alike⟩

theorem respects_ensureDirectory (down : (".." : Text) ∉ segments)
    (comparable : Comparable segments target) :
    Respects (AlikeAround target) setting (ensureDirectory ⟨.absolute, segments⟩) := by
  apply (respects_makeDirectory down comparable).attempt.bind
  intro made
  split
  · exact .pure _
  · exact .fail _
  · exact respects_unlessDirectory down comparable _

theorem respects_ensureDirectoriesBelow (down : (".." : Text) ∉ segments)
    (comparable : Comparable segments.reverse target) :
    Respects (AlikeAround target) setting (ensureDirectoriesBelow .absolute segments) := by
  induction segments with
  | nil => exact respects_ensureDirectory down comparable
  | cons segment above ih =>
    have downAll : (".." : Text) ∉ (segment :: above).reverse := by rwa [List.mem_reverse]
    rw [List.mem_cons, not_or] at down
    apply (respects_makeDirectory downAll comparable).attempt.bind
    intro made
    split
    · exact .pure _
    · refine (ih down.2 (comparable.of_prefix ?_)).bind fun _ =>
        respects_ensureDirectory downAll comparable
      rw [List.reverse_cons]
      exact List.prefix_append _ _
    · exact respects_unlessDirectory downAll comparable _

/-- Making directories straight down respects how the files look around the way. -/
theorem respects_ensureDirectories (down : (".." : Text) ∉ segments)
    (comparable : Comparable segments target) :
    Respects (AlikeAround target) setting (ensureDirectories ⟨.absolute, segments⟩) := by
  apply respects_ensureDirectoriesBelow
  · rwa [List.mem_reverse]
  · rwa [List.reverse_reverse]

/-- Whether a file can be written is the same, though it may carry another time. -/
theorem write_congr (down : (".." : Text) ∉ segments)
    (comparable : Comparable segments target) (content : Content) {session other : Session}
    (alike : AlikeAround target session other) :
    (write ⟨.absolute, segments⟩ content setting other).1 =
      (write ⟨.absolute, segments⟩ content setting session).1 := by
  rw [run_write, run_write]
  split_ifs with null
  · rfl
  · simp only [FileTree.write, alike.locate down comparable]
    cases located : session.files.locate setting.host.workingDirectory ⟨.absolute, segments⟩ with
    | error fault => rfl
    | ok place =>
      simp only [alike.node?_of_locate down comparable located]
      cases session.files.node? place with
      | none => rfl
      | some node => cases node <;> rfl

/-- Only where trees differ can it be seen that they do. -/
theorem foundAt_of_agreeBut {tree other : FileTree} {workingDirectory place : Place} {path : Path}
    (agree : AgreeBut place tree other) (apart : tree.locate workingDirectory path ≠ .ok place) :
    foundAt other workingDirectory path = foundAt tree workingDirectory path := by
  unfold foundAt
  rcases agree.lookup apart with same | ⟨fault, otherFault, absent, otherAbsent, found, otherFound⟩
  · rw [same]
  · simp [found, otherFound, absent, otherAbsent]

/-! ### Files as they are read -/

/-- What is read is decided by what the path leads to. -/
theorem contentAt_congr {files other : FileTree} {workingDirectory : Place} {written : Text}
    (same : other.lookup workingDirectory (.ofText written) =
      files.lookup workingDirectory (.ofText written)) :
    contentAt other workingDirectory written = contentAt files workingDirectory written := by
  rw [contentAt, contentAt, lookupWritten, lookupWritten, same]

/-- The sessions hold the same in the file that a text leads to. -/
def ReadsAlike (setting : Setting) (written : Text) (session other : Session) : Prop :=
  contentAt other.files setting.host.workingDirectory written =
    contentAt session.files setting.host.workingDirectory written

theorem respects_read (written : Text) :
    Respects (ReadsAlike setting written) setting (read written) := by
  intro session other alike
  rw [run_read, run_read]
  exact ⟨alike, alike⟩

end Files

end JarAtlas
