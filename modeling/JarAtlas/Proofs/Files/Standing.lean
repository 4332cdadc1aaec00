import JarAtlas.Proofs.Archive.Extraction
import JarAtlas.Proofs.Files.Temporary

/-!
# Files that stand

A file stands as long as nothing else is written in its place and none of the directories above it
goes. New directories do not touch it, nor does the temporary directory, unless the file is in there.
What else may be written comes to another place if its path ends in another name, or if the path was
open before: the one way in which new directories lead to an old file is back up from one of them.
-/

namespace JarAtlas

open Action

namespace FileTree

variable {tree changed : FileTree} {workingDirectory here place : Place} {path : Path}
  {content : Content} {stamp : Int} {allowed : Path → Node → Prop}

/-! ### A file at a place -/

/-- The file stands at the place, below directories only. -/
structure HasFile (tree : FileTree) (place : Place) (content : Content) (stamp : Int) : Prop where
  above : ∀ front, front <+: place → front ≠ place → tree.node? front = some .directory
  stands : tree.node? place = some (.file content stamp)

theorem IsTree.hasFile (isTree : tree.IsTree) (stands : tree.node? place = some (.file content stamp)) :
    tree.HasFile place content stamp where
  above := by
    rintro front ⟨more, rfl⟩ apart
    refine isTree.above stands ?_
    rintro rfl
    exact apart (List.append_nil front).symm
  stands := stands

theorem HasFile.node?_congr (hasFile : tree.HasFile place content stamp)
    (same : ∀ front, front <+: place → changed.node? front = tree.node? front) :
    changed.HasFile place content stamp where
  above front isAbove apart := (same front isAbove).trans (hasFile.above front isAbove apart)
  stands := (same place (List.prefix_refl _)).trans hasFile.stands

theorem HasFile.set {node : Node} (hasFile : tree.HasFile place content stamp)
    (apart : ¬ here <+: place) : (tree.set here node).HasFile place content stamp :=
  hasFile.node?_congr fun _ isAbove => node?_set_ne node fun same => apart (same ▸ isAbove)

/-- What is put elsewhere, and every new directory, leaves the file. -/
theorem HasFile.put (hasFile : tree.HasFile place content stamp)
    (elsewhere : ∀ path content stamp, allowed path (.file content stamp) →
      tree.locate workingDirectory path ≠ .ok place)
    (put : Put workingDirectory allowed tree changed) : changed.HasFile place content stamp := by
  cases put with
  | @intro path here node isAllowed located noDirectory free =>
    refine hasFile.set fun isAbove => ?_
    by_cases itself : here = place
    · subst itself
      cases node with
      | directory =>
        rw [hasFile.stands] at free
        cases free rfl
      | file => exact elsewhere _ _ _ isAllowed located
    · exact noDirectory (hasFile.above here isAbove itself)

theorem HasFile.grows (hasFile : tree.HasFile place content stamp)
    (elsewhere : ∀ tree path content stamp, allowed path (.file content stamp) →
      FileTree.locate tree workingDirectory path ≠ .ok place)
    (grows : Grows workingDirectory allowed tree changed) : changed.HasFile place content stamp := by
  induction grows with
  | refl => exact hasFile
  | tail _ put ih => exact ih.put (elsewhere _) put

/-- A path leads to a place of the name that it ends in. -/
theorem getLast?_of_locate {above : List Text} {name : Text} (ends : path.segments = above ++ [name])
    (down : name ≠ "..") (located : tree.locate workingDirectory path = .ok place) :
    place.getLast? = some name := by
  have walked := (locate_eq_ok_iff.mp located).2
  rw [ends, walk_append] at walked
  cases first : tree.walk (if path.root = .relative then workingDirectory else []) above with
  | error fault =>
    rw [first] at walked
    cases walked
  | ok parent =>
    rw [first] at walked
    have isPlace : place = parent ++ [name] :=
      eq_append_of_walk (fun up => down (List.mem_singleton.mp up).symm) walked
    rw [isPlace, List.getLast?_concat]

theorem locate_ne_of_name {above : List Text} {name : Text} (ends : path.segments = above ++ [name])
    (down : name ≠ "..") (apart : place.getLast? ≠ some name) :
    tree.locate workingDirectory path ≠ .ok place :=
  fun located => apart (getLast?_of_locate ends down located)

/-! ### Ways through new directories -/

/-- On the way from `here`, no double dot leads back up from something that is missing. -/
def IsStraight (tree : FileTree) (here : Place) (segments : List Text) : Prop :=
  ∀ front : List Text, front ++ [(".." : Text)] <+: segments →
    tree.walk here (front ++ [(".." : Text)]) ≠ .error .missing

theorem isStraight_of_down {segments : List Text} (down : (".." : Text) ∉ segments) :
    tree.IsStraight here segments := by
  intro front isPrefix
  exact absurd (isPrefix.subset (List.mem_append_right _ (List.mem_singleton.mpr rfl))) down

theorem IsStraight.of_prefix {segments front : List Text} (straight : tree.IsStraight here segments)
    (isPrefix : front <+: segments) : tree.IsStraight here front :=
  fun _ isFront => straight _ (isFront.trans isPrefix)

theorem IsStraight.append_singleton {segments : List Text} {last : Text}
    (straight : tree.IsStraight here segments) (down : last ≠ "..") :
    tree.IsStraight here (segments ++ [last]) := by
  intro front isPrefix
  rcases List.prefix_concat_iff.mp isPrefix with whole | inside
  · exact absurd (List.append_inj_right' whole rfl) (by simpa using Ne.symm down)
  · exact straight front inside

/-- New directories take nothing away. -/
theorem Grows.node?_of_directories {node : Node}
    (grows : Grows workingDirectory (fun _ node => node = .directory) tree changed)
    (stands : tree.node? here = some node) : changed.node? here = some node := by
  induction grows with
  | refl => exact stands
  | tail _ put ih =>
    cases put with
    | @intro path place node isDirectory located noDirectory free =>
      rw [node?_set_ne, ih]
      rintro rfl
      rw [ih] at free
      cases free isDirectory

/-- Only what was missing can be found with the help of new directories. -/
theorem Grows.walk_of_directories {segments : List Text} {result : Except FileFault Place}
    (grows : Grows workingDirectory (fun _ node => node = .directory) tree changed)
    (walked : tree.walk here segments = result) (decided : result ≠ .error .missing) :
    changed.walk here segments = result := by
  induction segments generalizing here with
  | nil => exact walked
  | cons segment segments ih =>
    rw [FileTree.walk] at walked ⊢
    split at walked
    · exact absurd walked.symm decided
    · rename_i stands
      rw [grows.node?_of_directories stands]
      exact walked
    · rename_i stands
      rw [grows.node?_of_directories stands]
      dsimp only
      split_ifs at walked ⊢
      · exact walked
      all_goals exact ih walked

/-- A straight way to a file, or to a directory above it, has not been opened by new directories. -/
theorem HasFile.walk_of_directories {segments : List Text} {reached : Place}
    (hasFile : tree.HasFile place content stamp)
    (grows : Grows workingDirectory (fun _ node => node = .directory) tree changed)
    (straight : tree.IsStraight here segments)
    (walked : changed.walk here segments = .ok reached) (isAbove : reached <+: place) :
    tree.walk here segments = .ok reached := by
  induction segments using List.reverseRecOn generalizing reached with
  | nil => exact walked
  | append_singleton segments last ih =>
    by_cases up : last = ".."
    · -- Whether the way leads back up has been decided before.
      subst up
      have same := grows.walk_of_directories rfl (straight segments (List.prefix_refl _))
      exact same.symm.trans walked
    · rcases exists_directory_of_walk_append (List.cons_ne_nil last []) walked
        with ⟨parent, toParent, -⟩
      rw [walk_append, toParent] at walked
      have isReached : reached = parent ++ [last] :=
        eq_append_of_walk (fun isUp => up (List.mem_singleton.mp isUp).symm) walked
      have short := byteCount_le_of_walk walked last (List.mem_singleton.mpr rfl)
      rw [isReached] at isAbove ⊢
      have parentAbove : parent <+: place := (List.prefix_append parent [last]).trans isAbove
      have isDirectory : tree.node? parent = some .directory := by
        refine hasFile.above parent parentAbove ?_
        rintro rfl
        exact absurd isAbove.length_le (by simp)
      rw [walk_append, ih (straight.of_prefix (List.prefix_append _ _)) toParent parentAbove]
      change tree.walk parent [last] = _
      rw [walk, isDirectory]
      dsimp only
      rw [if_neg (Nat.not_lt.mpr short), if_neg up, walk]

/-- A straight path that leads to a file through new directories led there without them. -/
theorem HasFile.lookup_of_directories (hasFile : tree.HasFile place content stamp)
    (grows : Grows workingDirectory (fun _ node => node = .directory) tree changed)
    (straight : tree.IsStraight (startOf workingDirectory path) path.segments)
    (located : changed.locate workingDirectory path = .ok place) :
    tree.lookup workingDirectory path = .ok (.file content stamp) := by
  rw [locate_eq_ok_iff] at located
  have before : tree.locate workingDirectory path = .ok place :=
    locate_eq_ok_iff.mpr ⟨located.1,
      hasFile.walk_of_directories grows straight located.2 (List.prefix_refl _)⟩
  rw [lookup, before]
  dsimp only
  rw [hasFile.stands]

end FileTree

namespace FileTree

variable {tree between changed : FileTree} {workingDirectory place : Place} {outside : Place → Prop}

/-! ### What a change leaves -/

/-- Outside of a region, all directories are still there, and so is a file at the place. -/
structure Leaves (outside : Place → Prop) (place : Place) (tree changed : FileTree) : Prop where
  directory : ∀ {here}, outside here → tree.node? here = some .directory →
    changed.node? here = some .directory
  hasFile : ∀ {content stamp}, outside place → tree.HasFile place content stamp →
    changed.HasFile place content stamp

namespace Leaves

theorem refl (tree : FileTree) : tree.Leaves outside place tree := ⟨fun _ => id, fun _ => id⟩

theorem trans (first : tree.Leaves outside place between) (second : between.Leaves outside place changed) :
    tree.Leaves outside place changed where
  directory isOutside stands := second.directory isOutside (first.directory isOutside stands)
  hasFile isOutside stands := second.hasFile isOutside (first.hasFile isOutside stands)

/-- Changes at a place and below it leave what is outside. -/
theorem of_node?_eq {region : Place}
    (same : ∀ here, ¬ region <+: here → changed.node? here = tree.node? here) :
    tree.Leaves (fun here => ¬ region <+: here) place changed where
  directory isOutside stands := (same _ isOutside).trans stands
  hasFile isOutside hasFile :=
    hasFile.node?_congr fun front isAbove => same front fun below => isOutside (below.trans isAbove)

theorem of_grows {allowed : Path → Node → Prop}
    (elsewhere : ∀ tree path content stamp, allowed path (.file content stamp) →
      FileTree.locate tree workingDirectory path ≠ .ok place)
    (grows : Grows workingDirectory allowed tree changed) : tree.Leaves outside place changed where
  directory _ stands := grows.keepsDirectories _ stands
  hasFile _ hasFile := hasFile.grows elsewhere grows

theorem outside_of_isFree {region : Place} {node : Node} (isFree : tree.IsFree region)
    (nonempty : place ≠ []) (stands : tree.node? place = some node) : ¬ region <+: place := by
  intro below
  rw [isFree.node?_eq_none below nonempty] at stands
  cases stands

/-- Nothing stands in a region that is free, so all directories are left. -/
theorem keepsDirectories {region : Place}
    (leaves : tree.Leaves (fun here => ¬ region <+: here) place changed)
    (isFree : tree.IsFree region) : tree.KeepsDirectories changed := by
  intro here isDirectory
  by_cases root : here = []
  · rw [root]
    rfl
  · exact leaves.directory (outside_of_isFree isFree root isDirectory) isDirectory

theorem hasFile_of_isFree {region : Place} {content : Content} {stamp : Int}
    (leaves : tree.Leaves (fun here => ¬ region <+: here) place changed)
    (isFree : tree.IsFree region) (hasFile : tree.HasFile place content stamp) :
    changed.HasFile place content stamp := by
  refine leaves.hasFile (outside_of_isFree isFree ?_ hasFile.stands) hasFile
  rintro rfl
  cases hasFile.stands

end Leaves

end FileTree

namespace Files

variable {α β : Type} {place : Place}

/-! ### Operations that spare a place -/

/-- The operation leaves all directories and a file at the place, but for what is in the temporary
directory. -/
def Spares (place : Place) (action : Action α) : Prop :=
  ∀ (setting : Setting) (session : Session),
    session.files.Leaves (fun here => ¬ setting.host.temporaryDirectory <+: here) place
      (action setting session).2.files

namespace Spares

variable {action : Action α}

theorem of_keeps (kept : Keeps Session.files action) : Spares place action := by
  intro setting session
  rw [kept]
  exact .refl _

theorem pure (answer : α) : Spares place (pure answer : Action α) := of_keeps (.pure answer)

theorem fail (error : Error) : Spares place (fail error : Action α) := of_keeps (.fail error)

theorem ofExcept (result : Except Error α) : Spares place (Action.ofExcept result) :=
  of_keeps (.ofExcept result)

theorem bind {next : α → Action β} (first : Spares place action)
    (others : ∀ answer, Spares place (next answer)) : Spares place (action >>= next) := by
  intro setting session
  have leaves := first setting session
  rw [run_bind]
  generalize action setting session = outcome at leaves ⊢
  rcases outcome with ⟨result, after⟩
  cases result with
  | ok answer => exact leaves.trans (others answer setting after)
  | error error => exact leaves

/-- What only leads to a file with an ending spares every place whose name does not end so. -/
theorem of_puts {base : Path} {front ending : Text} (noDot : '.' ∉ front)
    (isEnding : Path.IsFileEnding ending) (apart : ∀ last ∈ place.getLast?, ¬ ending <:+ last)
    (puts : Puts (FileTree.LeadsTo (base.join (front ++ ending))) action) : Spares place action := by
  intro setting session
  rcases Path.exists_segments_join noDot isEnding with ⟨above, name, ends⟩
  refine .of_grows (fun tree path _ _ leads => ?_) (puts setting session)
  have sameSegments : path.segments = (base.join (front ++ ending)).segments := by
    by_contra differs
    cases leads.directory differs
  refine FileTree.locate_ne_of_name (sameSegments.trans ends) (isEnding.append_ne_up name) ?_
  exact fun isLast => apart _ isLast (List.suffix_append name ending)

theorem withTemporary {work : Path → Action α} (spares : ∀ directory, Spares place (work directory)) :
    Spares place (withTemporary work) := by
  intro setting session
  rw [run_withTemporary]
  have made : session.files.Leaves (fun here => ¬ setting.host.temporaryDirectory <+: here) place
      (withScratch setting session).files := by
    refine .of_node?_eq fun here isOutside => FileTree.node?_set_ne _ ?_
    rintro rfl
    exact isOutside (List.prefix_refl _)
  have worked := spares (pathOf setting.host.temporaryDirectory) setting (withScratch setting session)
  exact (made.trans worked).trans (.of_node?_eq fun _ => FileTree.node?_remove_of_apart)

end Spares

end Files

end JarAtlas
