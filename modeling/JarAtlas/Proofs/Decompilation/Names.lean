import JarAtlas.Proofs.Archive.Extraction
import JarAtlas.Proofs.Files.Temporary
import Mathlib.Data.List.Basic

/-!
# The names that a class name is made of

A class name whose parts are names leads down through its packages, both to the entry in a jar and to
where a project keeps the source.
-/

namespace JarAtlas

open Text

namespace ClassName

/-! ### Where a source is kept -/

/-- The class name consists of names with dots between them. -/
def IsNamed (className : Text) : Prop := ∀ piece ∈ pieces '.' className, piece ≠ [] ∧ '/' ∉ piece

instance (className : Text) : Decidable (IsNamed className) :=
  inferInstanceAs (Decidable (∀ piece ∈ pieces '.' className, _))

/-- The packages of a class, from the outermost on. -/
def packages (className : Text) : List Text := (pieces '.' className).dropLast

/-- The names on the way from a project to the source of a class. -/
def keptNames (className : Text) : List Text :=
  cacheDirectory :: packages className ++ [simple className ++ ".java"]

/-- The names on the way to a file of a class: its packages and the file. -/
def fileNames (ending className : Text) : List Text :=
  packages className ++ [simple className ++ ending]

theorem keptNames_eq_cons (className : Text) :
    keptNames className = cacheDirectory :: fileNames ".java" className := rfl

theorem pieces_eq (className : Text) :
    pieces '.' className = packages className ++ [simple className] := by
  rw [packages, simple, pieces_of_cutLast]
  cases cutLast '.' className with
  | none => rfl
  | some halves => simp

variable {className : Text}

theorem not_mem_of_mem_packages {name : Text} (isPackage : name ∈ packages className) :
    '.' ∉ name :=
  not_mem_of_mem_pieces (List.dropLast_subset _ isPackage)

/-- The file of a class is not on the way to that of another one: a package has no dot in its name. -/
theorem eq_of_prefix_fileNames {ending other : Text} (dotted : '.' ∈ ending)
    (isPrefix : fileNames ending className <+: fileNames ending other) : className = other := by
  rcases FileTree.prefix_or_beyond isPrefix with ⟨more, whole⟩ | ⟨below, goesOn, isFile, whole⟩
  · have isPackage : simple className ++ ending ∈ packages other := by
      rw [← whole, fileNames]
      simp
    exact absurd (List.mem_append_right _ dotted) (not_mem_of_mem_packages isPackage)
  · rcases List.exists_cons_of_ne_nil goesOn with ⟨file, others, rfl⟩
    rcases List.cons_prefix_cons.mp isFile with ⟨rfl, ends⟩
    rw [List.prefix_nil.mp ends] at whole
    rcases List.append_inj' whole rfl with ⟨samePackages, sameFile⟩
    have sameSimple : simple className = simple other :=
      List.append_cancel_right (List.head_eq_of_cons_eq sameFile)
    rw [← join_pieces '.' className, ← join_pieces '.' other, pieces_eq, pieces_eq, samePackages,
      sameSimple]

/-- The entry of a class is the path of its file, with slashes for dots. -/
theorem entry_eq (className : Text) :
    entry className = join "/" (fileNames entryEnding className) := by
  have slashed : className.map (fun character => if character = '.' then '/' else character) =
      join "/" (packages className ++ [simple className]) := by
    rw [← pieces_eq]
    conv_lhs => rw [← join_pieces '.' className, map_join]
    congr 1
    refine (List.map_congr_left fun piece isPiece => ?_).trans (List.map_id _)
    refine (List.map_congr_left fun character member => ?_).trans (List.map_id _)
    have notDot : character ≠ '.' := by
      rintro rfl
      exact not_mem_of_mem_pieces isPiece member
    exact if_neg notDot
  rw [entry, slashed, fileNames]
  by_cases bare : packages className = []
  · rw [bare]
    rfl
  · rw [join_append_singleton _ bare, join_append_singleton _ bare]
    simp only [List.append_assoc]

namespace IsNamed

theorem of_mem_packages (named : IsNamed className) {name : Text}
    (isPackage : name ∈ packages className) : name ≠ [] ∧ name ≠ ['.'] ∧ '/' ∉ name := by
  rcases named name (List.dropLast_subset _ isPackage) with ⟨nonempty, noSlash⟩
  refine ⟨nonempty, ?_, noSlash⟩
  rintro rfl
  exact not_mem_of_mem_packages isPackage (by decide)

/-- The names of the packages and of a file of the class are those of a plain path. -/
theorem isPlain_file (named : IsNamed className) {ending : Text} (isEnding : Path.IsFileEnding ending)
    (root : PathRoot) : Path.IsPlain ⟨root, fileNames ending className⟩ := by
  intro segment member
  rcases List.mem_append.mp member with isPackage | isFile
  · exact named.of_mem_packages isPackage
  · rw [List.mem_singleton.mp isFile]
    have long : 2 < (simple className ++ ending).length := by
      rw [List.length_append]
      exact Nat.lt_add_left _ isEnding.long
    refine ⟨?_, ?_, ?_⟩
    · intro bare
      rw [bare] at long
      cases long
    · intro isDot
      rw [isDot] at long
      contradiction
    · rw [List.mem_append, not_or]
      exact ⟨(named _ (simple_mem_pieces className)).2, isEnding.noSlash⟩

/-- The source of a class is kept under its project by the names of its packages and its own. -/
theorem cachePath_eq (named : IsNamed className) (project : Path) :
    cachePath className project = project.down (keptNames className) := by
  have relative : ∀ part ∈ cacheParts className, ¬ Path.IsRooted part := by
    intro part isPart isRooted
    rcases exists_isRooted_cacheParts.mp ⟨part, isPart, isRooted⟩ with ⟨piece, isPiece, rooted⟩
    exact (named piece isPiece).2 (List.mem_of_mem_head? rooted)
  have plain := named.isPlain_file isFileEnding_java .relative
  have inPackages : (pieces '.' (package className)).flatMap Path.segmentsOf =
      packages className := by
    have kept : ∀ name ∈ packages className, Path.segmentsOf name = [name] := by
      intro name isPackage
      rcases named.of_mem_packages isPackage with ⟨nonempty, notDot, noSlash⟩
      exact Path.segmentsOf_name nonempty noSlash notDot
    have all := List.flatMap_congr kept
    rw [List.flatMap_singleton'] at all
    rw [← all, packages, package, pieces_of_cutLast '.' className]
    cases cutLast '.' className with
    | none => rfl
    | some halves => simp
  have file : Path.segmentsOf (simple className ++ ".java") = [simple className ++ ".java"] := by
    rcases plain (simple className ++ ".java") (by simp [fileNames]) with ⟨nonempty, notDot, noSlash⟩
    exact Path.segmentsOf_name nonempty noSlash notDot
  have cache : Path.segmentsOf cacheDirectory = [cacheDirectory] := by decide
  rw [ClassName.cachePath_eq, Path.foldl_join_of_not_isRooted _ relative,
    Path.join_of_not_isRooted (by decide), Path.down, keptNames, cacheParts, List.flatMap_append,
    inPackages, List.flatMap_singleton, file, cache]
  simp

theorem segmentsOf_entry (named : IsNamed className) :
    Path.segmentsOf (entry className) = fileNames entryEnding className := by
  rw [entry_eq]
  exact (named.isPlain_file isFileEnding_class .relative).segmentsOf_join

/-- The entry of a class does not begin with a slash. -/
theorem not_isRooted_entry (named : IsNamed className) :
    ¬ Path.IsRooted (entryOf (.text className)).display := by
  have noSlash := (named.isPlain_file isFileEnding_class .relative).takeWhile_join
  change ¬ (entry className).head? = some '/'
  rw [entry_eq]
  intro rooted
  rcases List.head?_eq_some_iff.mp rooted with ⟨rest, whole⟩
  dsimp only at noSlash
  rw [whole] at noSlash
  simp at noSlash

/-- The file of a class goes below a destination under the names of its packages and its own. -/
theorem join_entry (named : IsNamed className) (destination : Path) :
    destination.join (entry className) = destination.down (fileNames entryEnding className) := by
  have joined : destination.join (entry className) =
      destination.down (Path.segmentsOf (entry className)) :=
    Path.join_of_not_isRooted named.not_isRooted_entry
  rw [joined, named.segmentsOf_entry]

end IsNamed

/-- Nothing leads back up on the way to a file of a class. -/
theorem not_mem_fileNames {ending : Text} (isEnding : Path.IsFileEnding ending) (className : Text) :
    (".." : Text) ∉ fileNames ending className := by
  intro up
  rcases List.mem_append.mp up with isPackage | isFile
  · exact not_mem_of_mem_packages isPackage (by decide)
  · exact isEnding.append_ne_up _ (List.mem_singleton.mp isFile).symm

theorem not_mem_keptNames (className : Text) : (".." : Text) ∉ keptNames className := by
  rw [keptNames_eq_cons, List.mem_cons, not_or]
  exact ⟨by decide, not_mem_fileNames isFileEnding_java className⟩

end ClassName

end JarAtlas
