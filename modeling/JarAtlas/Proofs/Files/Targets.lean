import JarAtlas.Proofs.Files.Confinement
import JarAtlas.Proofs.Files.Growth

/-!
# Changes on the way to a target

Making the directories of a path and writing the file that it leads to changes nothing but what
stands on the way there. Where the target is below a directory that is there, everything that is new
stands below that directory, under the names that the path goes on with; otherwise the directories on
the way to it may be new, too.
-/

namespace JarAtlas

open Path Text

namespace FileTree

variable {tree changed : FileTree} {workingDirectory place : Place} {destination target : Path}

/-- What is put on the way to a target: directories, and at the target itself anything. -/
structure LeadsTo (target path : Path) (node : Node) : Prop where
  root : path.root = target.root
  segments : path.segments <+: target.segments
  directory : path.segments ≠ target.segments → node = .directory

theorem byteCount_append (text more : Text) :
    byteCount (text ++ more) = byteCount text + byteCount more := by
  induction text with
  | nil => exact (Nat.zero_add _).symm
  | cons character text ih =>
    rw [List.cons_append, byteCount, byteCount, ih, Nat.add_assoc]

/-- The way to a path that is short enough is short enough. -/
theorem byteCount_text_le {root : PathRoot} {segments more : List Text}
    (short : byteCount (Path.text ⟨root, segments ++ more⟩) ≤ pathLimit) :
    byteCount (Path.text ⟨root, segments⟩) ≤ pathLimit := by
  cases segments with
  | nil =>
    cases root <;> decide
  | cons first others =>
    refine le_trans ?_ short
    have begins : Text.join "/" (first :: others) <+: Text.join "/" (first :: others ++ more) := by
      cases more with
      | nil => simp
      | cons next more =>
        rw [join_append _ (List.cons_ne_nil _ _) (List.cons_ne_nil _ _)]
        exact List.prefix_append _ _
    rcases begins with ⟨rest, whole⟩
    simp only [Path.text, List.cons_append, List.isEmpty_cons, Bool.false_eq_true, and_false,
      if_false, byteCount_append]
    rw [List.cons_append] at whole
    rw [← whole, byteCount_append]
    omega

theorem prefix_or_beyond {front more segments : List Text} (reaches : segments <+: front ++ more) :
    segments <+: front ∨
      ∃ beyond, beyond ≠ [] ∧ beyond <+: more ∧ segments = front ++ beyond := by
  rcases List.prefix_or_prefix_of_prefix reaches (List.prefix_append _ _) with before | behind
  · exact .inl before
  · rcases behind with ⟨beyond, rfl⟩
    by_cases stops : beyond = []
    · left
      simp [stops]
    · exact .inr ⟨beyond, stops, (List.prefix_append_right_inj _).mp reaches, rfl⟩

/-- A path that goes on from a directory without a way back leads below that directory. -/
theorem exists_home_of_locate {root : PathRoot} {segments beyond : List Text}
    (down : (".." : Text) ∉ beyond)
    (located : tree.locate workingDirectory ⟨root, segments ++ beyond⟩ = .ok place) :
    ∃ home, tree.locate workingDirectory ⟨root, segments⟩ = .ok home ∧ place = home ++ beyond := by
  rw [locate_eq_ok_iff] at located
  rcases located with ⟨short, walked⟩
  dsimp only at walked
  rw [walk_append] at walked
  cases first : tree.walk (if root = .relative then workingDirectory else []) segments with
  | error fault =>
    rw [first] at walked
    contradiction
  | ok home =>
    rw [first] at walked
    refine ⟨home, ?_, eq_append_of_walk down walked⟩
    rw [locate_eq_ok_iff]
    exact ⟨byteCount_text_le short, first⟩

/-- Whatever has been put on the way to a target below a directory stands below the place that the
directory's path leads to, or it is a directory made on the way there. -/
theorem Grows.below_or_onTheWay (isBelow : destination.IsBelow target)
    (grows : Grows workingDirectory (LeadsTo target) tree changed)
    (differs : changed.node? place ≠ tree.node? place) :
    (∃ home below, changed.locate workingDirectory destination = .ok home ∧ below ≠ [] ∧
        place = home ++ below) ∨
      ∃ way, way <+: destination.segments ∧
        changed.locate workingDirectory { destination with segments := way } = .ok place ∧
        tree.node? place = none ∧ changed.node? place = some .directory := by
  rcases grows.exists_of_node?_ne differs with ⟨path, node, leads, located, stands, free⟩
  rcases isBelow with ⟨root, below, nonempty, down, targetSegments⟩
  rcases path with ⟨pathRoot, segments⟩
  rcases destination with ⟨destinationRoot, onTheWay⟩
  have sameRoot : pathRoot = destinationRoot := leads.root.trans root
  subst sameRoot
  have reaches : segments <+: onTheWay ++ below := targetSegments ▸ leads.segments
  rcases prefix_or_beyond reaches with before | ⟨beyond, goesOn, isBeyond, rfl⟩
  · right
    have isDirectory : node = .directory := by
      apply leads.directory
      rw [targetSegments]
      rintro rfl
      exact nonempty (List.prefix_nil.mp ((List.prefix_append_right_inj onTheWay).mp
        (before.trans (List.prefix_append _ [] ))))
    exact ⟨segments, before, located, free isDirectory, by rw [stands, isDirectory]⟩
  · left
    rcases exists_home_of_locate (fun up => down (isBeyond.subset up)) located
      with ⟨home, homeLocated, isPlace⟩
    exact ⟨home, beyond, homeLocated, goesOn, isPlace⟩

/-- Nothing is put outside a directory that is there. -/
theorem Grows.below_of_lookup (isBelow : destination.IsBelow target)
    (grows : Grows workingDirectory (LeadsTo target) tree changed)
    (isThere : tree.lookup workingDirectory destination = .ok .directory) :
    ∃ home, tree.locate workingDirectory destination = .ok home ∧
      ∀ place, changed.node? place ≠ tree.node? place → ∃ below, below ≠ [] ∧ place = home ++ below := by
  rw [lookup] at isThere
  cases located : tree.locate workingDirectory destination with
  | error fault =>
    rw [located] at isThere
    contradiction
  | ok home =>
    have isDirectory : tree.node? home = some .directory := by
      rw [located] at isThere
      dsimp only at isThere
      split at isThere
      · contradiction
      · cases isThere
        assumption
    have still := located
    rw [locate_eq_ok_iff] at still
    refine ⟨home, rfl, fun place differs => ?_⟩
    rcases grows.below_or_onTheWay isBelow differs
      with ⟨newHome, below, newLocated, nonempty, isPlace⟩ | ⟨way, onTheWay, made, free, -⟩
    · rw [locate_eq_ok_iff, grows.walk still.2] at newLocated
      cases newLocated.2
      exact ⟨below, nonempty, isPlace⟩
    · -- The way to a directory that is there passes through directories that are there.
      exfalso
      rcases onTheWay with ⟨more, whole⟩
      rw [locate_eq_ok_iff] at made
      dsimp only at made
      by_cases arrives : more = []
      · rw [arrives, List.append_nil] at whole
        rw [whole, grows.walk still.2] at made
        cases made.2
        rw [isDirectory] at free
        contradiction
      · rw [← whole] at still
        rcases exists_directory_of_walk_append arrives still.2 with ⟨between, walked, stands⟩
        rw [grows.walk walked] at made
        cases made.2
        rw [stands] at free
        contradiction

end FileTree

end JarAtlas
