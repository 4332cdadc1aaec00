import JarAtlas.Proofs.ClassIndex.Coordinates
import JarAtlas.Proofs.Files.Temporary

/-!
# Paths of jars

A repository has a directory for each part of a group, so the last three names of a jar's path are
those of the artifact, of the version and of the file, however many parts the group has. The dashes in
the name of the file may belong to the artifact, the version or the classifier; as the directories tell
the first two apart, the whole path tells which artifact it belongs to.
-/

namespace JarAtlas.Coordinate

open Text

/-- The coordinate of a jar, part by part. The parts of the group are names, and neither the artifact
nor the version is a single dot, which would be no directory of its own. -/
structure JarCoordinate where
  group : Text
  artifact : Text
  classifier : Option Text
  version : Text
  scope : Text
  isPart : ∀ part ∈ [group, artifact, version, scope] ++ classifier.toList, IsPart part
  named : ∀ name ∈ pieces '.' group, name ≠ []
  artifact_ne : artifact ≠ ['.']
  version_ne : version ≠ ['.']

theorem IsPart.not_mem {part : Text} {character : Char} (isPart : IsPart part)
    (outside : Coordinate.isPart character = false) : character ∉ part := by
  intro member
  rw [isPart.2 character member] at outside
  cases outside

theorem AreParts.pieces_join {parts : List Text} (areParts : AreParts parts) :
    pieces ':' (join ":" parts) = parts := by
  apply Text.pieces_join
  · rintro rfl
    simpa using areParts.count
  · exact fun part member => (areParts.each part member).not_mem (by decide +kernel)

namespace JarCoordinate

variable (coordinate other : JarCoordinate)

/-- The parts in the order in which they are written. -/
def parts : List Text :=
  [coordinate.group, coordinate.artifact, "jar"] ++ coordinate.classifier.toList ++
    [coordinate.version, coordinate.scope]

/-- The coordinate as it is written. -/
def text : Text := join ":" coordinate.parts

/-- The coordinates are those of one jar, maybe in different scopes. -/
def NamesSame : Prop :=
  coordinate.group = other.group ∧ coordinate.artifact = other.artifact ∧
    coordinate.version = other.version ∧ coordinate.classifier = other.classifier

/-- What the name of the file has behind the version. -/
def ending : Text :=
  match coordinate.classifier with
  | none => ".jar"
  | some classifier => '-' :: classifier ++ ".jar"

/-- The name of the file. -/
def fileName : Text := coordinate.artifact ++ '-' :: coordinate.version ++ coordinate.ending

/-- The names on the way from a repository to the jar. -/
def names : List Text :=
  pieces '.' coordinate.group ++ [coordinate.artifact, coordinate.version, coordinate.fileName]

theorem areParts : AreParts coordinate.parts where
  count := by
    cases found : coordinate.classifier <;> simp [parts, found]
  each := by
    intro part member
    have isType : IsPart "jar" := by decide +kernel
    have known := coordinate.isPart part
    simp only [parts, List.mem_append, List.mem_cons, List.not_mem_nil, or_false] at member known
    grind

/-! ### The names of a jar -/

theorem ending_eq_iff : coordinate.ending = other.ending ↔
    coordinate.classifier = other.classifier := by
  constructor
  · intro same
    unfold ending at same
    have some_ne {classifier : Text} : '-' :: classifier ++ ".jar" ≠ ".jar".toList := by
      intro impossible
      exact absurd (congrArg List.head? impossible) (by simp)
    split at same <;> split at same
    · simp_all
    · exact absurd same.symm some_ne
    · exact absurd same some_ne
    · simp_all
  · intro same
    rw [ending, ending, same]

/-- The names tell which jar it is. -/
theorem names_eq_iff : coordinate.names = other.names ↔ coordinate.NamesSame other := by
  constructor
  · intro same
    rcases List.append_inj' same rfl with ⟨sameGroup, sameRest⟩
    simp only [List.cons.injEq, and_true] at sameRest
    rcases sameRest with ⟨sameArtifact, sameVersion, sameFile⟩
    refine ⟨?_, sameArtifact, sameVersion, ?_⟩
    · rw [← join_pieces '.' coordinate.group, sameGroup, join_pieces]
    · rw [fileName, fileName, sameArtifact, sameVersion] at sameFile
      exact (ending_eq_iff _ _).mp (List.append_cancel_left sameFile)
  · rintro ⟨sameGroup, sameArtifact, sameVersion, sameClassifier⟩
    have sameEnding := (ending_eq_iff coordinate other).mpr sameClassifier
    rw [names, names, fileName, fileName, sameGroup, sameArtifact, sameVersion, sameEnding]

/-- No part of a coordinate leads elsewhere: each of the names is a segment of its own. -/
theorem isPlain_names (root : PathRoot) : Path.IsPlain ⟨root, coordinate.names⟩ := by
  have noSlash {part : Text} (isPart : IsPart part) : '/' ∉ part :=
    isPart.not_mem (by decide +kernel)
  have isGroup : IsPart coordinate.group := coordinate.isPart _ (by simp)
  have isArtifact : IsPart coordinate.artifact := coordinate.isPart _ (by simp)
  have isVersion : IsPart coordinate.version := coordinate.isPart _ (by simp)
  intro name member
  rcases List.mem_append.mp member with inGroup | isOther
  · refine ⟨coordinate.named name inGroup, ?_, fun slash => ?_⟩
    · rintro rfl
      exact not_mem_of_mem_pieces inGroup (by decide)
    · exact noSlash isGroup (subset_of_mem_pieces inGroup slash)
  · simp only [List.mem_cons, List.not_mem_nil, or_false] at isOther
    rcases isOther with rfl | rfl | rfl
    · exact ⟨isArtifact.1, coordinate.artifact_ne, noSlash isArtifact⟩
    · exact ⟨isVersion.1, coordinate.version_ne, noSlash isVersion⟩
    · have dashed : '-' ∈ coordinate.fileName := by simp [fileName]
      refine ⟨List.ne_nil_of_mem dashed, ?_, ?_⟩
      · intro isDot
        rw [isDot] at dashed
        exact absurd dashed (by decide)
      · have endingNoSlash : '/' ∉ coordinate.ending := by
          unfold ending
          split
          · decide
          · rename_i classifier found
            have isClassifier : IsPart classifier := coordinate.isPart _ (by simp [found])
            simp [noSlash isClassifier]
        simp [fileName, noSlash isArtifact, noSlash isVersion, endingNoSlash]

/-! ### The path of a jar -/

theorem jarPath?_eq (repository : Path) :
    jarPath? coordinate.text repository = some (repository.down coordinate.names) := by
  have walked : coordinate.names.foldl Path.join repository = repository.down coordinate.names :=
    Path.foldl_join_of_isPlain (coordinate.isPlain_names .relative)
  rw [names, List.foldl_append] at walked
  rw [jarPath?, text, coordinate.areParts.pieces_join, names, ← walked]
  cases found : coordinate.classifier with
  | none => simp [parts, found, jarIn, fileName, ending]
  | some classifier =>
    have nonempty : classifier ≠ [] := (coordinate.isPart classifier (by simp [found])).1
    simp [parts, found, jarIn, fileName, ending, nonempty]

end JarCoordinate

/-- Each coordinate of a jar has a path in each repository, and two of them have the same path, or
paths that are written alike, exactly if they name the same group, artifact, version and classifier. -/
theorem jarPath_eq_iff_namesSame (coordinate other : JarCoordinate) (repository : Path) :
    (∃ path, jarPath? coordinate.text repository = some path) ∧
      (jarPath? coordinate.text repository = jarPath? other.text repository ↔
        coordinate.NamesSame other) ∧
      (repository.IsPlain →
        ((jarPath? coordinate.text repository).map Path.text =
            (jarPath? other.text repository).map Path.text ↔ coordinate.NamesSame other)) := by
  have samePath : jarPath? coordinate.text repository = jarPath? other.text repository ↔
      coordinate.NamesSame other := by
    rw [coordinate.jarPath?_eq, other.jarPath?_eq, Option.some_inj, Path.down_inj,
      JarCoordinate.names_eq_iff]
  refine ⟨⟨_, coordinate.jarPath?_eq repository⟩, samePath, fun plain => ?_⟩
  rw [← samePath]
  refine ⟨fun sameText => ?_, fun same => by rw [same]⟩
  rw [coordinate.jarPath?_eq, other.jarPath?_eq] at sameText ⊢
  congr 1
  exact (plain.down (coordinate.isPlain_names .relative)).eq_of_text_eq
    (plain.down (other.isPlain_names .relative)) (Option.some.inj sameText)

/-- An artifact with a dash in its name. -/
def dashedArtifact : JarCoordinate where
  group := "g.h"
  artifact := "a-b"
  classifier := none
  version := "1"
  scope := "compile"
  isPart := by decide +kernel
  named := by decide
  artifact_ne := by decide
  version_ne := by decide

/-- An artifact with a dash in its version. -/
def dashedVersion : JarCoordinate where
  group := "g.h"
  artifact := "a"
  classifier := none
  version := "b-1"
  scope := "test"
  isPart := by decide +kernel
  named := by decide
  artifact_ne := by decide
  version_ne := by decide

/-- Files of one name, though their dashes belong to different parts, are in different directories. -/
theorem jarPath_eq_iff_namesSame_dashes :
    let repository := Path.ofText "m2"
    repository.IsPlain ∧ dashedArtifact.text = "g.h:a-b:jar:1:compile" ∧
      dashedArtifact.fileName = dashedVersion.fileName ∧
      (jarPath? dashedArtifact.text repository).map Path.text ≠
        (jarPath? dashedVersion.text repository).map Path.text := by
  intro repository
  have plain : repository.IsPlain := Path.isPlain_ofText "m2"
  have differ : ¬ dashedArtifact.NamesSame dashedVersion := fun same => by
    cases same.2.1
  refine ⟨plain, by decide, by decide, ?_⟩
  rw [ne_eq, (jarPath_eq_iff_namesSame dashedArtifact dashedVersion repository).2.2 plain]
  exact differ

end JarAtlas.Coordinate
