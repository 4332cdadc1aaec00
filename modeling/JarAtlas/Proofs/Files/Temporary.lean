import JarAtlas.Proofs.Files.Directories

/-!
# Temporary directories

An operation that puts everything into its temporary directory leaves the files exactly as they were,
whether it answers or fails, since the directory is new and goes with all that is in it. For what is
on the way to the directory and in it, one tree in which its name is free is like the other.
-/

namespace JarAtlas

namespace Path

/-- The path on from a directory, by names. -/
def down (directory : Path) (names : List Text) : Path :=
  { directory with segments := directory.segments ++ names }

theorem down_nil (directory : Path) : directory.down [] = directory := by
  rw [down, List.append_nil]

theorem down_append (directory : Path) (names more : List Text) :
    directory.down (names ++ more) = (directory.down names).down more := by
  rw [down, down, down, List.append_assoc]

theorem parent_down (directory : Path) (front : List Text) (last : Text) :
    (directory.down (front ++ [last])).parent = directory.down front := by
  rw [down, down, parent, ← List.append_assoc, List.dropLast_concat]

theorem down_inj {directory : Path} {names others : List Text} :
    directory.down names = directory.down others ↔ names = others := by
  simp [down]

theorem IsPlain.down {directory : Path} {root : PathRoot} {names : List Text}
    (plain : directory.IsPlain) (namesPlain : IsPlain ⟨root, names⟩) :
    (directory.down names).IsPlain := by
  intro segment member
  exact (List.mem_append.mp member).elim (plain segment) (namesPlain segment)

/-- Names that are joined one after another lead down. -/
theorem foldl_join_of_isPlain {directory : Path} {root : PathRoot} {names : List Text}
    (plain : IsPlain ⟨root, names⟩) : names.foldl join directory = directory.down names := by
  induction names generalizing directory with
  | nil => exact (down_nil directory).symm
  | cons name names ih =>
    rcases plain name List.mem_cons_self with ⟨nonempty, notDot, noSlash⟩
    have relative : ¬ IsRooted name := fun rooted => noSlash (List.mem_of_mem_head? rooted)
    rw [List.foldl_cons, ih fun other member => plain other (List.mem_cons_of_mem _ member),
      join_of_not_isRooted relative, segmentsOf_name nonempty noSlash notDot, down, down,
      List.append_assoc, List.singleton_append]

theorem IsBelow.exists_down {directory path : Path} (isBelow : directory.IsBelow path) :
    ∃ names, names ≠ [] ∧ (".." : Text) ∉ names ∧ path = directory.down names := by
  rcases path with ⟨root, segments⟩
  rcases isBelow with ⟨rfl, names, nonempty, down, rfl⟩
  exact ⟨names, nonempty, down, rfl⟩

end Path

namespace FileTree

variable {tree changed : FileTree} {workingDirectory home place here : Place} {directory : Path}
  {names : List Text}

/-! ### What is put below a directory -/

/-- Below a directory that is there, what is put on the way to a target stands under the names that
the target goes on with. -/
theorem Put.exists_below (located : tree.locate workingDirectory directory = .ok home)
    (stands : tree.node? home = some .directory) (down : (".." : Text) ∉ names)
    (put : Put workingDirectory (LeadsTo (directory.down names)) tree changed) :
    ∃ below node, below ≠ [] ∧ below <+: names ∧ (below ≠ names → node = .directory) ∧
      tree.node? (home ++ below) ≠ some .directory ∧
      (node = .directory → tree.node? (home ++ below) = none) ∧
      tree.locate workingDirectory (directory.down below) = .ok (home ++ below) ∧
      changed = tree.set (home ++ below) node := by
  cases put with
  | @intro path place node leads putLocated noDirectory free =>
    rcases path with ⟨root, segments⟩
    rcases directory with ⟨directoryRoot, onTheWay⟩
    have sameRoot : root = directoryRoot := leads.root
    subst sameRoot
    have reaches : segments <+: onTheWay ++ names := leads.segments
    have walked := (locate_eq_ok_iff.mp located).2
    have putWalked := (locate_eq_ok_iff.mp putLocated).2
    rcases prefix_or_beyond reaches with ⟨more, whole⟩ | ⟨below, goesOn, isBelow, rfl⟩
    · -- On the way to the directory there are only directories.
      exfalso
      apply noDirectory
      dsimp only at walked putWalked
      by_cases arrives : more = []
      · rw [arrives, List.append_nil] at whole
        rw [whole] at putWalked
        rw [← Except.ok.inj (walked.symm.trans putWalked), stands]
      · rw [← whole] at walked
        rcases exists_directory_of_walk_append arrives walked with ⟨between, toBetween, isDirectory⟩
        rw [← Except.ok.inj (toBetween.symm.trans putWalked), isDirectory]
    · rcases exists_home_of_locate (fun up => down (isBelow.subset up)) putLocated
        with ⟨newHome, newLocated, rfl⟩
      cases located.symm.trans newLocated
      refine ⟨below, node, goesOn, isBelow, fun stops => leads.directory fun same => stops ?_,
        noDirectory, free, putLocated, rfl⟩
      exact List.append_cancel_left same

/-- A directory that is there stays there while something is put below it. -/
theorem Grows.home_of_locate {allowed : Path → Node → Prop}
    (located : tree.locate workingDirectory directory = .ok home)
    (stands : tree.node? home = some .directory)
    (grows : Grows workingDirectory allowed tree changed) :
    changed.locate workingDirectory directory = .ok home ∧ changed.node? home = some .directory :=
  ⟨grows.keepsDirectories.locate located, grows.keepsDirectories home stands⟩

/-- What is put into a directory goes with it. -/
theorem remove_set {node : Node} (below : place <+: here) :
    (tree.set here node).remove place = tree.remove place := by
  have isBelow : place.isPrefixOf here = true := List.isPrefixOf_iff_prefix.mpr below
  rw [FileTree.mk.injEq, nodes_remove, nodes_remove, nodes_set, List.filter_append,
    List.filter_filter]
  have nothing : List.filter (fun entry : Place × Node => !place.isPrefixOf entry.1)
      [(here, node)] = [] := by
    simp [isBelow]
  rw [nothing, List.append_nil]
  apply List.filter_congr
  intro entry _
  by_cases itself : entry.1 = here
  · simp [itself, isBelow]
  · simp [itself]

theorem Grows.remove_eq (located : tree.locate workingDirectory directory = .ok home)
    (stands : tree.node? home = some .directory) (down : (".." : Text) ∉ names)
    (grows : Grows workingDirectory (LeadsTo (directory.down names)) tree changed) :
    changed.remove home = tree.remove home := by
  induction grows with
  | refl => rfl
  | @tail between changed earlier put ih =>
    rcases Grows.home_of_locate located stands earlier with ⟨stillLocated, stillStands⟩
    rcases put.exists_below stillLocated stillStands down
      with ⟨below, node, -, -, -, -, -, -, rfl⟩
    rw [remove_set (List.prefix_append _ _), ih]

/-! ### Names that are free -/

/-- Nothing stands at a place or below it. -/
def IsFree (tree : FileTree) (place : Place) : Prop := ∀ entry ∈ tree.nodes, ¬ place <+: entry.1

instance (tree : FileTree) (place : Place) : Decidable (tree.IsFree place) :=
  inferInstanceAs (Decidable (∀ entry ∈ tree.nodes, _))

theorem IsFree.remove (isFree : tree.IsFree place) : tree.remove place = tree := by
  rw [FileTree.mk.injEq, nodes_remove, List.filter_eq_self]
  intro entry member
  rw [Bool.not_eq_true', Bool.eq_false_iff, ne_eq, List.isPrefixOf_iff_prefix]
  exact isFree entry member

theorem IsFree.node?_eq_none (isFree : tree.IsFree place) (below : place <+: here)
    (nonempty : here ≠ []) : tree.node? here = none := by
  cases stands : tree.node? here with
  | none => rfl
  | some node =>
    rcases exists_mem_of_node? stands with root | ⟨entry, member, rfl⟩
    · exact absurd root nonempty
    · exact absurd below (isFree entry member)

theorem IsFree.set {node : Node} (isFree : tree.IsFree place) (apart : ¬ place <+: here) :
    (tree.set here node).IsFree place := by
  intro entry member
  rcases mem_set.mp member with ⟨old, -⟩ | rfl
  · exact isFree entry old
  · exact apart

end FileTree

namespace Files

open Action

/-- The temporary directory can be made: the way to it is open, and its name is free. -/
structure IsScratch (setting : Setting) (files : FileTree) : Prop where
  nonempty : setting.host.temporaryDirectory ≠ []
  plain : (pathOf setting.host.temporaryDirectory).IsPlain
  down : (".." : Text) ∉ setting.host.temporaryDirectory
  located : files.locate setting.host.workingDirectory (pathOf setting.host.temporaryDirectory) =
    .ok setting.host.temporaryDirectory
  isFree : files.IsFree setting.host.temporaryDirectory

namespace IsScratch

variable {setting : Setting} {files other : FileTree} {place : Place}

/-- All directories above the temporary one are there. -/
theorem above (scratch : IsScratch setting files) (isAbove : place <+: setting.host.temporaryDirectory)
    (apart : place ≠ setting.host.temporaryDirectory) : files.node? place = some .directory := by
  rcases isAbove with ⟨more, whole⟩
  have goesOn : more ≠ [] := by
    rintro rfl
    exact apart (List.append_nil place ▸ whole)
  have walked := (FileTree.locate_eq_ok_iff.mp scratch.located).2
  have down := scratch.down
  dsimp only [pathOf] at walked
  rw [← whole] at walked down
  rcases FileTree.exists_directory_of_walk_append goesOn walked with ⟨between, toBetween, stands⟩
  have isPlace := FileTree.eq_append_of_walk (fun up => down (List.mem_append_left _ up)) toBetween
  simp only [reduceCtorEq, if_false, List.nil_append] at isPlace
  rwa [isPlace] at stands

/-- On the way to the temporary directory and in it, one tree is like another. -/
theorem node?_eq (scratch : IsScratch setting files) (otherScratch : IsScratch setting other)
    (comparable : place <+: setting.host.temporaryDirectory ∨
      setting.host.temporaryDirectory <+: place) : other.node? place = files.node? place := by
  by_cases root : place = []
  · rw [root]
    rfl
  by_cases below : setting.host.temporaryDirectory <+: place
  · rw [scratch.isFree.node?_eq_none below root, otherScratch.isFree.node?_eq_none below root]
  · have isAbove := comparable.resolve_right below
    have apart : place ≠ setting.host.temporaryDirectory := by
      rintro rfl
      exact below (List.prefix_refl _)
    rw [scratch.above isAbove apart, otherScratch.above isAbove apart]

theorem file?_eq_none (scratch : IsScratch setting files)
    (inside : setting.host.temporaryDirectory <+: place) : files.file? place = none := by
  have nonempty : place ≠ [] := by
    rintro rfl
    exact scratch.nonempty (List.prefix_nil.mp inside)
  rw [FileTree.file?, scratch.isFree.node?_eq_none inside nonempty]

theorem of_keepsDirectories (scratch : IsScratch setting files)
    (keeps : files.KeepsDirectories other)
    (isFree : other.IsFree setting.host.temporaryDirectory) : IsScratch setting other :=
  { scratch with
    located := keeps.locate scratch.located
    isFree }

/-- The temporary directory, once it has been made. -/
theorem set (scratch : IsScratch setting files) :
    let made := files.set setting.host.temporaryDirectory .directory
    made.locate setting.host.workingDirectory (pathOf setting.host.temporaryDirectory) =
        .ok setting.host.temporaryDirectory ∧
      made.node? setting.host.temporaryDirectory = some .directory := by
  intro made
  have free := scratch.isFree.node?_eq_none (List.prefix_refl _) scratch.nonempty
  have opens := FileTree.locate_eq_ok_iff.mp scratch.located
  refine ⟨?_, FileTree.node?_set_self _ scratch.nonempty⟩
  exact FileTree.locate_eq_ok_iff.mpr ⟨opens.1, FileTree.walk_set (by simp [free]) opens.2⟩

end IsScratch

variable {α : Type} {setting : Setting} {session : Session}

/-- The session with an empty temporary directory. -/
def withScratch (setting : Setting) (session : Session) : Session :=
  { session with files := session.files.set setting.host.temporaryDirectory .directory }

theorem run_withTemporary (action : Path → Action α) :
    withTemporary action setting session =
      (let outcome :=
        action (pathOf setting.host.temporaryDirectory) setting (withScratch setting session)
      (outcome.1, { outcome.2 with
        files := outcome.2.files.remove setting.host.temporaryDirectory })) := rfl

theorem keeps_withTemporary {γ : Type} {view : Session → γ} {work : Path → Action α}
    (unfiled : ∀ session files clock, view { session with files, clock } = view session)
    (kept : ∀ directory, Keeps view (work directory)) : Keeps view (withTemporary work) := by
  intro setting session
  rw [run_withTemporary]
  refine (unfiled _ _ _).trans ((kept _ setting (withScratch setting session)).trans ?_)
  exact unfiled session _ session.clock

/-- What is put on the way to a target in the temporary directory goes with the directory. -/
theorem IsScratch.remove_of_puts {names : List Text} {action : Action α}
    (scratch : IsScratch setting session.files) (down : (".." : Text) ∉ names)
    (puts : Puts (FileTree.LeadsTo ((pathOf setting.host.temporaryDirectory).down names)) action) :
    (action setting (withScratch setting session)).2.files.remove
      setting.host.temporaryDirectory = session.files := by
  rcases scratch.set with ⟨located, stands⟩
  rw [FileTree.Grows.remove_eq located stands down (puts setting (withScratch setting session))]
  rw [FileTree.remove_set (List.prefix_refl _), scratch.isFree.remove]

theorem IsScratch.node?_of_puts {names : List Text} {action : Action α} {place : Place}
    (scratch : IsScratch setting session.files) (down : (".." : Text) ∉ names)
    (puts : Puts (FileTree.LeadsTo ((pathOf setting.host.temporaryDirectory).down names)) action)
    (apart : ¬ setting.host.temporaryDirectory <+: place) :
    (action setting (withScratch setting session)).2.files.node? place =
      session.files.node? place := by
  rw [← FileTree.node?_remove_of_apart apart, scratch.remove_of_puts down puts]

end Files

end JarAtlas
