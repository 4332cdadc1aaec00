import JarAtlas.FileTree
import Mathlib.Tactic.Common

/-!
# Changed trees

What a path leads to once something has been put at a place, or once a place has been taken away. A
way through a tree passes through directories only, so it never passes through the place of a file,
and a change of that file does not divert it.
-/

namespace JarAtlas.FileTree

variable {tree changed : FileTree} {place here : Place} {workingDirectory : Place} {path : Path}

/-! ### Places -/

theorem node?_eq (tree : FileTree) (place : Place) : tree.node? place =
    if place.isEmpty then some .directory
    else (tree.nodes.find? fun entry => entry.1 == place).map Prod.snd := rfl

theorem nodes_set (tree : FileTree) (place : Place) (node : Node) : (tree.set place node).nodes =
    tree.nodes.filter (fun entry => entry.1 != place) ++ [(place, node)] := rfl

theorem nodes_remove (tree : FileTree) (place : Place) : (tree.remove place).nodes =
    tree.nodes.filter fun entry => !place.isPrefixOf entry.1 := rfl

theorem mem_set {entry : Place × Node} {node : Node} : entry ∈ (tree.set place node).nodes ↔
    entry ∈ tree.nodes ∧ entry.1 ≠ place ∨ entry = (place, node) := by
  simp [nodes_set]

theorem mem_remove {entry : Place × Node} :
    entry ∈ (tree.remove place).nodes ↔ entry ∈ tree.nodes ∧ ¬ place <+: entry.1 := by
  simp [nodes_remove, ← List.isPrefixOf_iff_prefix]

theorem node?_set_self (node : Node) (nonempty : place ≠ []) :
    (tree.set place node).node? place = some node := by
  have others : (tree.nodes.filter fun entry => entry.1 != place).find?
      (fun entry => entry.1 == place) = none := by
    simp [List.find?_eq_none]
  rw [node?_eq, if_neg (by simpa using nonempty), nodes_set, List.find?_append, others]
  simp

theorem node?_set_ne (node : Node) (apart : here ≠ place) :
    (tree.set place node).node? here = tree.node? here := by
  rw [node?_eq, node?_eq]
  split_ifs with root
  · rfl
  · have same : (tree.nodes.filter fun entry => entry.1 != place).find?
        (fun entry => entry.1 == here) = tree.nodes.find? fun entry => entry.1 == here := by
      rw [List.find?_filter]
      congr 1
      funext entry
      by_cases isHere : entry.1 = here <;> simp [isHere, apart]
    rw [nodes_set, List.find?_append, same]
    simp [Ne.symm apart]

/-- Nothing but the root stands below a place that has been taken away. -/
theorem node?_remove_of_below (below : place <+: here) (nonempty : here ≠ []) :
    (tree.remove place).node? here = none := by
  rw [← List.isPrefixOf_iff_prefix] at below
  have absent : (tree.nodes.filter fun entry => !place.isPrefixOf entry.1).find?
      (fun entry => entry.1 == here) = none := by
    simp only [List.find?_eq_none, List.mem_filter, beq_iff_eq, and_imp]
    rintro ⟨other, node⟩ - kept rfl
    simp [below] at kept
  rw [node?_eq, if_neg (by simpa using nonempty), nodes_remove, absent, Option.map_none]

/-- What has not been taken away stands where it stood. -/
theorem node?_remove_of_apart (apart : ¬ place <+: here) :
    (tree.remove place).node? here = tree.node? here := by
  rw [← List.isPrefixOf_iff_prefix] at apart
  rw [node?_eq, node?_eq]
  split_ifs with root
  · rfl
  · rw [nodes_remove, List.find?_filter]
    congr 2
    funext entry
    by_cases isHere : entry.1 = here <;> simp [isHere, apart]

/-! ### Ways -/

/-- A way that is open stays open when something is put at the place of a file or at a free place.
-/
theorem walk_set {node : Node} {segments : List Text} {reached : Place}
    (noDirectory : tree.node? place ≠ some .directory)
    (walked : tree.walk here segments = .ok reached) :
    (tree.set place node).walk here segments = .ok reached := by
  induction segments generalizing here with
  | nil => exact walked
  | cons segment segments ih =>
    cases standing : tree.node? here with
    | none => simp [walk, standing] at walked
    | some stands =>
      cases stands with
      | file content stamp => simp [walk, standing] at walked
      | directory =>
        have apart : here ≠ place := by
          rintro rfl
          exact noDirectory standing
        have same : (tree.set place node).node? here = some .directory := by
          rw [node?_set_ne node apart, standing]
        simp only [walk, standing] at walked
        simp only [walk, same]
        split_ifs at walked ⊢
        all_goals exact ih walked

/-- A way that was open is still open, or it leads nowhere, once a place has been taken away. -/
theorem walk_remove {segments : List Text} {reached : Place} (nonempty : place ≠ [])
    (walked : tree.walk here segments = .ok reached) :
    (tree.remove place).walk here segments = .ok reached ∨
      (tree.remove place).walk here segments = .error .missing := by
  induction segments generalizing here with
  | nil => exact .inl walked
  | cons segment segments ih =>
    by_cases below : place <+: here
    · have notRoot : here ≠ [] := by
        rintro rfl
        exact nonempty (List.prefix_nil.mp below)
      right
      rw [walk, node?_remove_of_below below notRoot]
    · have same : (tree.remove place).node? here = tree.node? here :=
        node?_remove_of_apart below
      rw [walk, same]
      rw [walk] at walked
      split at walked
      · exact .inr rfl
      · contradiction
      · split_ifs at walked ⊢
        all_goals exact ih walked

theorem fault_of_walk {segments : List Text} {fault : FileFault}
    (nowhere : tree.walk here segments = .error fault) :
    fault.isAbsence = true ∨ fault = .nameTooLong := by
  induction segments generalizing here with
  | nil => cases nowhere
  | cons segment segments ih =>
    rw [walk] at nowhere
    split at nowhere
    · cases nowhere
      exact .inl rfl
    · cases nowhere
      exact .inl rfl
    · split_ifs at nowhere
      · cases nowhere
        exact .inr rfl
      all_goals exact ih nowhere

theorem exists_long_of_walk {here : Place} {segments : List Text}
    (ends : tree.walk here segments = .error .nameTooLong) :
    ∃ segment ∈ segments, nameLimit < Text.byteCount segment := by
  induction segments generalizing here with
  | nil => cases ends
  | cons segment segments ih =>
    rw [walk] at ends
    split at ends
    · cases ends
    · cases ends
    · split_ifs at ends with long
      · exact ⟨segment, List.mem_cons_self, long⟩
      all_goals
        rcases ih ends with ⟨other, member, isLong⟩
        exact ⟨other, List.mem_cons_of_mem _ member, isLong⟩

/-- A path leads nowhere because nothing stands there or because it is too long. -/
theorem fault_of_lookup {fault : FileFault}
    (nowhere : tree.lookup workingDirectory path = .error fault) :
    fault.isAbsence = true ∨ fault = .nameTooLong := by
  unfold lookup at nowhere
  split at nowhere
  · rename_i located
    cases nowhere
    unfold locate at located
    split_ifs at located
    · cases located
      exact .inr rfl
    all_goals exact fault_of_walk located
  · split at nowhere
    · cases nowhere
      exact .inl rfl
    · cases nowhere

/-- A directory can be made where nothing stands. -/
theorem makeDirectory_eq_ok_iff : tree.makeDirectory workingDirectory path = .ok changed ↔
    ∃ place, tree.locate workingDirectory path = .ok place ∧ tree.node? place = none ∧
      changed = tree.set place .directory := by
  unfold makeDirectory
  cases tree.locate workingDirectory path with
  | error fault => simp
  | ok place => cases stands : tree.node? place <;> simp [stands, eq_comm]

/-- A file can be written where no directory stands. -/
theorem write_eq_ok_iff {content : Content} {stamp : Int} :
    tree.write workingDirectory path content stamp = .ok changed ↔
      ∃ place, tree.locate workingDirectory path = .ok place ∧ tree.node? place ≠ some .directory ∧
        changed = tree.set place (.file content stamp) := by
  unfold write
  cases tree.locate workingDirectory path with
  | error fault => simp
  | ok place =>
    cases stands : tree.node? place with
    | none => simp [stands, eq_comm]
    | some node => cases node <;> simp [stands, eq_comm]

/-- A written file is there. -/
theorem lookup_of_write {content : Content} {stamp : Int}
    (written : tree.write workingDirectory path content stamp = .ok changed) :
    changed.lookup workingDirectory path = .ok (.file content stamp) := by
  rcases write_eq_ok_iff.mp written with ⟨place, located, noDirectory, rfl⟩
  have nonempty : place ≠ [] := by
    rintro rfl
    exact noDirectory rfl
  have stillLocated : (tree.set place (.file content stamp)).locate workingDirectory path =
      .ok place := by
    unfold locate at located ⊢
    split_ifs at located ⊢
    all_goals exact walk_set noDirectory located
  rw [lookup, stillLocated]
  dsimp only
  rw [node?_set_self _ nonempty]

/-- What is not there cannot be taken away. -/
theorem unlink_of_lookup_error {fault : FileFault}
    (nothing : tree.lookup workingDirectory path = .error fault) :
    tree.unlink workingDirectory path = .error fault := by
  unfold lookup at nothing
  unfold unlink
  split at nothing
  · cases nothing
    rfl
  · split at nothing
    · rename_i standing
      cases nothing
      rw [standing]
    · cases nothing

theorem exists_of_unlink (gone : tree.unlink workingDirectory path = .ok changed) :
    ∃ place content stamp, tree.locate workingDirectory path = .ok place ∧
      tree.node? place = some (.file content stamp) ∧ changed = tree.remove place := by
  unfold unlink at gone
  split at gone
  · contradiction
  · rename_i place located
    split at gone
    · contradiction
    · contradiction
    · rename_i content stamp standing
      cases gone
      exact ⟨place, content, stamp, located, standing, rfl⟩

/-- Where a file has been taken away, nothing is left. -/
theorem lookup_of_unlink (gone : tree.unlink workingDirectory path = .ok changed) :
    changed.lookup workingDirectory path = .error .missing := by
  rcases exists_of_unlink gone with ⟨place, content, stamp, located, standing, rfl⟩
  have nonempty : place ≠ [] := by
    rintro rfl
    cases standing
  have nothing : (tree.remove place).node? place = none :=
    node?_remove_of_below (List.prefix_refl _) nonempty
  have ways : (tree.remove place).locate workingDirectory path = .ok place ∨
      (tree.remove place).locate workingDirectory path = .error .missing := by
    unfold locate at located ⊢
    split_ifs at located ⊢
    all_goals exact walk_remove nonempty located
  rw [lookup]
  rcases ways with located | nowhere
  · rw [located]
    dsimp only
    rw [nothing]
  · rw [nowhere]

end JarAtlas.FileTree
