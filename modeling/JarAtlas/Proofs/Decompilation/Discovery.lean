import JarAtlas.Proofs.Decompilation.Afresh
import JarAtlas.Proofs.Text.Order
import Mathlib.Data.List.Basic

/-!
# Finding the decompiler

The jar of the decompiler is the first by name in one of the searched directories. A file of another
name does not matter for that, whether it is there or not, so kept sources do not.
-/

namespace JarAtlas

open Action Files FileTree

namespace FileTree

variable {tree : FileTree} {place : Place} {name : Text}

/-- The names in a directory are those under which something stands there. -/
theorem mem_names : name ∈ tree.names place ↔ tree.node? (place ++ [name]) ≠ none := by
  have listed : name ∈ tree.names place ↔ ∃ entry ∈ tree.nodes, entry.1 = place ++ [name] := by
    unfold names
    rw [List.mem_filterMap]
    apply exists_congr
    rintro ⟨other, node⟩
    apply and_congr_right
    intro _
    dsimp only
    constructor
    · intro isThere
      split_ifs at isThere with above
      rw [← above]
      exact (List.dropLast_append_getLast? name (Option.mem_def.mpr isThere)).symm
    · rintro rfl
      simp
  rw [listed, node?_eq, if_neg (by simp), ne_eq, Option.map_eq_none_iff, List.find?_eq_none]
  simp

end FileTree

namespace Tool

variable {setting : Setting} {place : Place}

/-- The files of the sessions are the same but for one place. -/
def FilesAgreeBut (place : Place) (session other : Session) : Prop :=
  AgreeBut place session.files other.files

theorem foundAt_of_noDirectory {files : FileTree} {workingDirectory : Place} {path : Path}
    (located : files.locate workingDirectory path = .ok place)
    (noDirectory : files.node? place ≠ some .directory) :
    (foundAt files workingDirectory path).map (· == some .directory) = .ok false := by
  unfold foundAt FileTree.lookup
  rw [located]
  dsimp only
  cases stands : files.node? place with
  | none => simp [FileFault.isAbsence, Except.map]
  | some node =>
    cases node with
    | directory => exact absurd stands noDirectory
    | file content stamp => rfl

theorem respects_isDirectory (path : Path) :
    Respects (FilesAgreeBut place) setting (isDirectory path) := by
  intro session other agree
  rw [run_isDirectory, run_isDirectory]
  refine ⟨?_, agree⟩
  dsimp only
  by_cases located : session.files.locate setting.host.workingDirectory path = .ok place
  · -- Neither tree holds a directory in the place where they differ.
    rw [foundAt_of_noDirectory located agree.noDirectory, foundAt_of_noDirectory
      (agree.keepsDirectories.locate located) agree.otherNoDirectory]
  · rw [foundAt_of_agreeBut agree located]

/-- Which decompiler jar is the first in a directory. -/
theorem respects_cfrIn (apart : ∀ name ∈ place.getLast?, isCfrJar name = false) (directory : Path) :
    Respects (FilesAgreeBut place) setting (cfrIn directory) := by
  apply (respects_isDirectory directory).bind
  intro isThere
  cases isThere with
  | false => exact .pure _
  | true =>
    intro session other agree
    have names (here : Place) : ((other.files.names here).mergeSort Text.precedes).find? isCfrJar =
        ((session.files.names here).mergeSort Text.precedes).find? isCfrJar := by
      apply Text.find?_mergeSort_congr
      intro name isJar
      have elsewhere : here ++ [name] ≠ place := by
        rintro rfl
        rw [apart name (by simp)] at isJar
        cases isJar
      rw [mem_names, mem_names, agree.elsewhere _ elsewhere]
    unfold namesIn
    simp only [if_true, run_bind, run_host, run_get]
    cases located : session.files.locate setting.host.workingDirectory directory with
    | ok here =>
      rw [agree.keepsDirectories.locate located]
      dsimp only
      simp only [run_pure]
      exact ⟨by rw [names], agree⟩
    | error fault =>
      cases otherLocated : other.files.locate setting.host.workingDirectory directory with
      | ok here =>
        rw [agree.symm.keepsDirectories.locate otherLocated] at located
        cases located
      | error otherFault => exact ⟨rfl, agree⟩

/-- A file that cannot be taken for a decompiler jar does not matter for which one is found. -/
theorem respects_findCfr (apart : ∀ name ∈ place.getLast?, isCfrJar name = false) :
    Respects (FilesAgreeBut place) setting findCfr := by
  have searchesAll (directories : List Path) :
      Respects (FilesAgreeBut place) setting (cfrInAny directories) := by
    induction directories with
    | nil => exact .pure _
    | cons directory others ih =>
      apply (respects_cfrIn apart directory).bind
      intro found
      cases found with
      | some path => exact .pure _
      | none => exact ih
  refine Respects.bind (fun _ _ agree => ⟨rfl, agree⟩) fun setting => ?_
  split
  · exact .pure _
  · apply (searchesAll _).bind
    intro found
    cases found with
    | some path => exact .pure _
    | none => exact .pure _

/-- The file of a kept source is no decompiler jar. -/
theorem isCfrJar_java (name : Text) : isCfrJar (name ++ ".java") = false := by
  have last : (name ++ ".java" : Text).getLast? = some 'a' := by
    rw [List.getLast?_append]
    rfl
  have apart {ending : Text} (isSuffix : ending <:+ name ++ ".java") (nonempty : ending ≠ []) :
      ending.getLast? = some 'a' := by
    rcases isSuffix with ⟨front, whole⟩
    rw [← whole, List.getLast?_append_of_ne_nil _ nonempty] at last
    exact last
  have noBreak : Text.endsWith "\n" (name ++ ".java") = false := by
    rw [Bool.eq_false_iff]
    intro ends
    exact absurd (apart (Text.endsWith_iff.mp ends) (by decide)) (by decide)
  unfold isCfrJar
  rw [noBreak]
  dsimp only
  rw [if_neg Bool.false_ne_true]
  cases behind : Text.after? "cfr-" (name ++ ".java") with
  | none => rfl
  | some rest =>
    have noJar : Text.endsWith ".jar" rest = false := by
      rw [Bool.eq_false_iff]
      intro ends
      have isSuffix : (".jar" : Text) <:+ name ++ ".java" := by
        rw [Text.eq_append_of_after? behind]
        exact (Text.endsWith_iff.mp ends).trans (List.suffix_append _ _)
      exact absurd (apart isSuffix (by decide)) (by decide)
    dsimp only
    rw [noJar, Bool.false_and]

end Tool

end JarAtlas
