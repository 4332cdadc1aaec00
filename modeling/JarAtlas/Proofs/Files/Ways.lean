import JarAtlas.Proofs.Files.Growth
import Mathlib.Data.List.Induction

/-!
# Ways through changed trees

A way is decided by what stands at the places it visits. So a path leads to the same in two trees
that agree on these places, and a way that is open stays open as long as no directory goes. In a
proper tree everything stands in a directory, so whatever stands far below a directory can be reached
from there by its names.
-/

namespace JarAtlas.FileTree

variable {tree other changed : FileTree} {workingDirectory here place : Place} {path : Path}
  {region : Place → Prop}

/-! ### Visited places -/

/-- The places on a way, as far as it leads. -/
def visited (tree : FileTree) (here : Place) : List Text → List Place
  | [] => [here]
  | segment :: segments =>
    here ::
      match tree.node? here with
      | some .directory =>
        if nameLimit < Text.byteCount segment then []
        else
          tree.visited (if segment = (".." : Text) then here.dropLast else here ++ [segment])
            segments
      | _ => []

/-- Where the way of a path begins. -/
def startOf (workingDirectory : Place) (path : Path) : Place :=
  if path.root = .relative then workingDirectory else []

/-- The way of a path never comes to a place of the region. -/
def Avoids (tree : FileTree) (workingDirectory : Place) (path : Path) (region : Place → Prop) :
    Prop :=
  ∀ place ∈ tree.visited (startOf workingDirectory path) path.segments, ¬ region place

instance [DecidablePred region] : Decidable (tree.Avoids workingDirectory path region) :=
  inferInstanceAs (Decidable (∀ place ∈ tree.visited _ _, ¬ region place))

theorem walk_congr {segments : List Text}
    (same : ∀ place ∈ tree.visited here segments, other.node? place = tree.node? place) :
    other.walk here segments = tree.walk here segments ∧
      other.visited here segments = tree.visited here segments := by
  induction segments generalizing here with
  | nil => exact ⟨rfl, rfl⟩
  | cons segment segments ih =>
    have sameHere : other.node? here = tree.node? here := same here List.mem_cons_self
    rw [walk, walk, visited, visited, sameHere]
    rw [visited] at same
    split at same
    · rename_i stands
      rw [stands]
      dsimp only
      split_ifs at same ⊢
      · exact ⟨rfl, rfl⟩
      all_goals
        rcases ih fun place member => same place (List.mem_cons_of_mem _ member)
          with ⟨sameWalk, sameVisited⟩
        exact ⟨sameWalk, by rw [sameVisited]⟩
    · rename_i noDirectory
      cases stands : tree.node? here with
      | none => exact ⟨rfl, rfl⟩
      | some node =>
        cases node with
        | directory => exact absurd stands noDirectory
        | file content stamp => exact ⟨rfl, rfl⟩

/-- A way visits the place that it leads to. -/
theorem mem_visited_of_walk {segments : List Text} {reached : Place}
    (walked : tree.walk here segments = .ok reached) : reached ∈ tree.visited here segments := by
  induction segments generalizing here with
  | nil =>
    cases walked
    exact List.mem_cons_self
  | cons segment segments ih =>
    rw [walk] at walked
    rw [visited]
    split at walked
    · contradiction
    · contradiction
    · rename_i stands
      rw [stands]
      dsimp only
      split_ifs at walked ⊢
      all_goals exact List.mem_cons_of_mem _ (ih walked)

theorem locate_eq (tree : FileTree) (workingDirectory : Place) (path : Path) :
    tree.locate workingDirectory path =
      if pathLimit < Text.byteCount path.text then .error .nameTooLong
      else tree.walk (startOf workingDirectory path) path.segments := rfl

section Region

/-- Trees that agree outside of a region lead to the same along a way that avoids it. -/
theorem Avoids.congr (avoids : tree.Avoids workingDirectory path region)
    (agree : ∀ place, ¬ region place → other.node? place = tree.node? place) :
    other.lookup workingDirectory path = tree.lookup workingDirectory path ∧
      other.Avoids workingDirectory path region := by
  rcases walk_congr fun place member => agree place (avoids place member)
    with ⟨sameWalk, sameVisited⟩
  constructor
  · have sameLocate : other.locate workingDirectory path = tree.locate workingDirectory path := by
      rw [locate_eq, locate_eq, sameWalk]
    rw [lookup, lookup, sameLocate]
    cases located : tree.locate workingDirectory path with
    | error fault => rfl
    | ok place =>
      rw [locate_eq] at located
      split_ifs at located
      dsimp only
      rw [agree place (avoids place (mem_visited_of_walk located))]
  · unfold Avoids
    rw [sameVisited]
    exact avoids

theorem Avoids.mono {more : Place → Prop} (avoids : tree.Avoids workingDirectory path more)
    (within : ∀ place, region place → more place) : tree.Avoids workingDirectory path region :=
  fun place member inRegion => avoids place member (within place inRegion)

end Region

/-! ### Directories that stay -/

/-- Every directory of the tree is still one in the other tree. -/
def KeepsDirectories (tree other : FileTree) : Prop :=
  ∀ place, tree.node? place = some .directory → other.node? place = some .directory

theorem KeepsDirectories.refl (tree : FileTree) : tree.KeepsDirectories tree := fun _ => id

theorem KeepsDirectories.trans (first : tree.KeepsDirectories other)
    (second : other.KeepsDirectories changed) : tree.KeepsDirectories changed :=
  fun place stands => second place (first place stands)

theorem Put.keepsDirectories {allowed : Path → Node → Prop}
    (put : Put workingDirectory allowed tree changed) : tree.KeepsDirectories changed := by
  intro place stands
  cases put with
  | @intro path putPlace node isAllowed located noDirectory free =>
    have apart : place ≠ putPlace := by
      rintro rfl
      exact noDirectory stands
    rw [node?_set_ne node apart, stands]

theorem Grows.keepsDirectories {allowed : Path → Node → Prop}
    (grows : Grows workingDirectory allowed tree changed) : tree.KeepsDirectories changed := by
  induction grows with
  | refl => exact .refl tree
  | tail _ put ih => exact ih.trans put.keepsDirectories

/-- A way that is open stays open, and so does the fault of a name that is too long. -/
theorem KeepsDirectories.walk {segments : List Text} {result : Except FileFault Place}
    (keeps : tree.KeepsDirectories other) (walked : tree.walk here segments = result)
    (decided : result ≠ .error .missing ∧ result ≠ .error .notDirectory) :
    other.walk here segments = result := by
  induction segments generalizing here with
  | nil => exact walked
  | cons segment segments ih =>
    rw [FileTree.walk] at walked ⊢
    split at walked
    · exact absurd walked.symm decided.1
    · exact absurd walked.symm decided.2
    · rename_i stands
      rw [keeps here stands]
      dsimp only
      split_ifs at walked ⊢
      · exact walked
      all_goals exact ih walked

theorem KeepsDirectories.locate_eq {result : Except FileFault Place}
    (keeps : tree.KeepsDirectories other) (located : tree.locate workingDirectory path = result)
    (decided : result ≠ .error .missing ∧ result ≠ .error .notDirectory) :
    other.locate workingDirectory path = result := by
  rw [FileTree.locate_eq] at located ⊢
  split_ifs at located ⊢
  · exact located
  · exact keeps.walk located decided

theorem KeepsDirectories.locate (keeps : tree.KeepsDirectories other)
    (located : tree.locate workingDirectory path = .ok place) :
    other.locate workingDirectory path = .ok place :=
  keeps.locate_eq located (by simp)

/-! ### Proper trees -/

/-- Everything stands in a directory. -/
def IsTree (tree : FileTree) : Prop :=
  ∀ entry ∈ tree.nodes, tree.node? entry.1.dropLast = some .directory

instance (tree : FileTree) : Decidable tree.IsTree :=
  inferInstanceAs (Decidable (∀ entry ∈ tree.nodes, _))

theorem exists_mem_of_node? {node : Node} (stands : tree.node? place = some node) :
    place = [] ∨ ∃ entry ∈ tree.nodes, entry.1 = place := by
  rw [node?_eq] at stands
  split_ifs at stands with root
  · exact .inl (List.isEmpty_iff.mp root)
  · rcases Option.map_eq_some_iff.mp stands with ⟨entry, found, -⟩
    have isThere := List.find?_some found
    exact .inr ⟨entry, List.mem_of_find?_eq_some found, beq_iff_eq.mp isThere⟩

theorem IsTree.parent {node : Node} (isTree : tree.IsTree) (stands : tree.node? place = some node) :
    tree.node? place.dropLast = some .directory := by
  rcases exists_mem_of_node? stands with rfl | ⟨entry, member, rfl⟩
  · rfl
  · exact isTree entry member

/-- A way from somewhere in a directory leads to somewhere in a directory. -/
theorem IsTree.parent_of_walk {segments : List Text} {reached : Place} (isTree : tree.IsTree)
    (inDirectory : tree.node? here.dropLast = some .directory)
    (walked : tree.walk here segments = .ok reached) :
    tree.node? reached.dropLast = some .directory := by
  induction segments generalizing here with
  | nil =>
    cases walked
    exact inDirectory
  | cons segment segments ih =>
    rw [walk] at walked
    split at walked
    · contradiction
    · contradiction
    · rename_i isDirectory
      split_ifs at walked
      · exact ih (isTree.parent inDirectory) walked
      · refine ih ?_ walked
        rwa [List.dropLast_concat]

/-- A tree stays proper when something is put into a directory and no directory goes. -/
theorem IsTree.set {node : Node} (isTree : tree.IsTree)
    (keeps : tree.KeepsDirectories (tree.set place node))
    (inDirectory : tree.node? place.dropLast = some .directory) : (tree.set place node).IsTree := by
  intro entry member
  apply keeps
  rcases mem_set.mp member with ⟨old, -⟩ | rfl
  · exact isTree entry old
  · exact inDirectory

/-- A tree stays proper when a place is taken away with all that is below it. -/
theorem IsTree.remove (isTree : tree.IsTree) (place : Place) : (tree.remove place).IsTree := by
  intro entry member
  rcases mem_remove.mp member with ⟨old, apart⟩
  rw [node?_remove_of_apart fun above => apart (above.trans (List.dropLast_prefix _))]
  exact isTree entry old

/-- All places above something are directories. -/
theorem IsTree.above {node : Node} {front more : Place} (isTree : tree.IsTree)
    (stands : tree.node? (front ++ more) = some node) (below : more ≠ []) :
    tree.node? front = some .directory := by
  induction more using List.reverseRecOn generalizing node with
  | nil => exact absurd rfl below
  | append_singleton more last ih =>
    have parent := isTree.parent stands
    rw [← List.append_assoc, List.dropLast_concat] at parent
    by_cases direct : more = []
    · rwa [direct, List.append_nil] at parent
    · exact ih parent direct

/-- Nothing stands below a file. -/
theorem IsTree.node?_eq_none_of_file {content : Content} {stamp : Int} {more : Place}
    (isTree : tree.IsTree) (stands : tree.node? place = some (.file content stamp))
    (below : more ≠ []) : tree.node? (place ++ more) = none := by
  cases further : tree.node? (place ++ more) with
  | none => rfl
  | some node =>
    rw [isTree.above further below] at stands
    cases stands

/-- All directories stay when a file is taken away. -/
theorem IsTree.keepsDirectories_remove {content : Content} {stamp : Int} (isTree : tree.IsTree)
    (stands : tree.node? place = some (.file content stamp)) :
    tree.KeepsDirectories (tree.remove place) := by
  intro directory isDirectory
  rw [node?_remove_of_apart _, isDirectory]
  rintro ⟨more, rfl⟩
  by_cases itself : more = []
  · rw [itself, List.append_nil, stands] at isDirectory
    cases isDirectory
  · rw [isTree.node?_eq_none_of_file stands itself] at isDirectory
    cases isDirectory

/-- What stands below a directory is reached by its names, unless one of them is too long. -/
theorem IsTree.walk_down {node : Node} {names : List Text} (isTree : tree.IsTree)
    (stands : tree.node? (here ++ names) = some node) (down : (".." : Text) ∉ names)
    (short : ∀ name ∈ names, Text.byteCount name ≤ nameLimit) :
    tree.walk here names = .ok (here ++ names) := by
  induction names generalizing here with
  | nil => rw [List.append_nil, walk]
  | cons name names ih =>
    have standsHere : tree.node? here = some .directory :=
      isTree.above stands (List.cons_ne_nil _ _)
    rw [List.mem_cons, not_or] at down
    have fits := short name List.mem_cons_self
    rw [List.append_cons] at stands ⊢
    rw [walk, standsHere]
    dsimp only
    rw [if_neg (Nat.not_lt.mpr fits), if_neg (Ne.symm down.1)]
    exact ih stands down.2 fun other member => short other (List.mem_cons_of_mem _ member)

/-- All names on an open way are short enough. -/
theorem byteCount_le_of_walk {segments : List Text} {reached : Place}
    (walked : tree.walk here segments = .ok reached) :
    ∀ segment ∈ segments, Text.byteCount segment ≤ nameLimit := by
  induction segments generalizing here with
  | nil => simp
  | cons segment segments ih =>
    rw [walk] at walked
    split at walked
    · contradiction
    · contradiction
    · split_ifs at walked
      all_goals
        intro other member
        rcases List.mem_cons.mp member with rfl | later
        · omega
        · exact ih walked other later

/-! ### Files -/

/-- The file at a place, with its time. -/
def file? (tree : FileTree) (place : Place) : Option (Content × Int) :=
  match tree.node? place with
  | some (.file content stamp) => some (content, stamp)
  | _ => none

theorem file?_congr (same : changed.node? place = tree.node? place) :
    changed.file? place = tree.file? place := by
  rw [file?, file?, same]

/-- Taking a file away leaves all others as they were. -/
theorem IsTree.file?_remove {content : Content} {stamp : Int} (isTree : tree.IsTree)
    (stands : tree.node? place = some (.file content stamp)) (here : Place) :
    (tree.remove place).file? here = if here = place then none else tree.file? here := by
  have nonempty : place ≠ [] := by
    rintro rfl
    cases stands
  split_ifs with itself
  · subst itself
    rw [file?, node?_remove_of_below (List.prefix_refl _) nonempty]
  · by_cases below : place <+: here
    · -- Below a file nothing was there to begin with.
      rcases below with ⟨more, rfl⟩
      have goesOn : more ≠ [] := by
        rintro rfl
        exact itself (List.append_nil place)
      have nothing := isTree.node?_eq_none_of_file stands goesOn
      rw [file?, file?, nothing,
        node?_remove_of_below (List.prefix_append _ _) (by simp [nonempty])]
    · exact file?_congr (node?_remove_of_apart below)

/-- New directories at free places leave every file as it was. -/
theorem Grows.file?_eq (grows : Grows workingDirectory (fun _ node => node = .directory) tree changed)
    (place : Place) : changed.file? place = tree.file? place := by
  by_cases same : changed.node? place = tree.node? place
  · exact file?_congr same
  · rcases grows.exists_of_node?_ne same with ⟨path, node, rfl, -, stands, free⟩
    rw [file?, file?, stands, free rfl]

end JarAtlas.FileTree
