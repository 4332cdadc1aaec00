import JarAtlas.Proofs.Files.Trees
import Mathlib.Data.List.Nodup

/-!
# Trees without repeated places

A tree that has each place once says all that stands there with its entries, so that listing the
files below a place finds each of them exactly once.
-/

namespace JarAtlas.FileTree

variable {tree : FileTree} {place : Place} {node : Node}

/-- No place is in the tree twice. -/
def HasDistinctPlaces (tree : FileTree) : Prop := (tree.nodes.map Prod.fst).Nodup

instance (tree : FileTree) : Decidable tree.HasDistinctPlaces :=
  inferInstanceAs (Decidable (tree.nodes.map Prod.fst).Nodup)

/-- Places stay distinct when something is put into the tree, and when something is taken away. -/
theorem HasDistinctPlaces.set (distinct : tree.HasDistinctPlaces) (place : Place) (node : Node) :
    (tree.set place node).HasDistinctPlaces := by
  have others : ((tree.nodes.filter fun entry => entry.1 != place).map Prod.fst).Sublist
      (tree.nodes.map Prod.fst) := List.filter_sublist.map _
  rw [HasDistinctPlaces, nodes_set, List.map_append, List.map_singleton, ← List.concat_eq_append]
  exact List.Nodup.concat (by simp) (others.nodup distinct)

theorem HasDistinctPlaces.remove (distinct : tree.HasDistinctPlaces) (place : Place) :
    (tree.remove place).HasDistinctPlaces := by
  have others : ((tree.nodes.filter fun entry => !place.isPrefixOf entry.1).map Prod.fst).Sublist
      (tree.nodes.map Prod.fst) := List.filter_sublist.map _
  exact others.nodup distinct

/-- What stands at a place is what the tree has there. -/
theorem HasDistinctPlaces.node?_eq_some_iff (distinct : tree.HasDistinctPlaces)
    (nonempty : place ≠ []) : tree.node? place = some node ↔ (place, node) ∈ tree.nodes := by
  rw [node?_eq, if_neg (by simpa using nonempty), Option.map_eq_some_iff]
  constructor
  · rintro ⟨entry, found, rfl⟩
    have isThere : entry.1 = place := by simpa using List.find?_some found
    rw [← isThere]
    exact List.mem_of_find?_eq_some found
  · intro member
    cases found : tree.nodes.find? fun entry => entry.1 == place with
    | none =>
      have absent := List.find?_eq_none.mp found _ member
      simp at absent
    | some entry =>
      have same : entry = (place, node) :=
        List.inj_on_of_nodup_map distinct (List.mem_of_find?_eq_some found) member
          (by simpa using List.find?_some found)
      exact ⟨entry, rfl, by rw [same]⟩

theorem mem_below {names : Place} :
    (names, node) ∈ tree.below place ↔ (place ++ names, node) ∈ tree.nodes := by
  rw [below, List.mem_filterMap]
  constructor
  · rintro ⟨⟨other, found⟩, member, isBelow⟩
    simp only [Option.ite_none_right_eq_some, List.isPrefixOf_iff_prefix, Option.some.injEq,
      Prod.mk.injEq] at isBelow
    rcases isBelow with ⟨⟨more, rfl⟩, rfl, rfl⟩
    simpa using member
  · intro member
    exact ⟨_, member, by simp⟩

theorem mem_filesBelow {below : Place} : below ∈ tree.filesBelow place ↔
    ∃ content stamp, (place ++ below, Node.file content stamp) ∈ tree.nodes := by
  rw [filesBelow, List.mem_filterMap]
  constructor
  · rintro ⟨⟨other, node⟩, member, found⟩
    cases node with
    | directory => cases found
    | file content stamp =>
      simp only [Option.ite_none_right_eq_some, List.isPrefixOf_iff_prefix, Option.some.injEq]
        at found
      rcases found with ⟨⟨more, rfl⟩, rfl⟩
      exact ⟨content, stamp, by simpa using member⟩
  · rintro ⟨content, stamp, member⟩
    exact ⟨_, member, by simp⟩

theorem HasDistinctPlaces.nodup_filesBelow (distinct : tree.HasDistinctPlaces) (place : Place) :
    (tree.filesBelow place).Nodup := by
  have apart : tree.nodes.Pairwise fun entry other => entry.1 ≠ other.1 :=
    List.pairwise_map.mp distinct
  refine List.pairwise_filterMap.mpr (apart.imp ?_)
  rintro ⟨first, node⟩ ⟨second, other⟩ differ below isFirst _ isSecond rfl
  cases node with
  | directory => cases isFirst
  | file content stamp =>
    cases other with
    | directory => cases isSecond
    | file content stamp =>
      simp only [Option.ite_none_right_eq_some, List.isPrefixOf_iff_prefix, Option.some.injEq]
        at isFirst isSecond
      rcases isFirst with ⟨⟨more, rfl⟩, rfl⟩
      rcases isSecond with ⟨⟨others, rfl⟩, same⟩
      simp_all

end JarAtlas.FileTree
