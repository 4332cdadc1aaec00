import JarAtlas.ClassName
import JarAtlas.Proofs.Files.Paths
import Mathlib.Data.List.Induction

/-!
# Paths below a directory

A path that texts are joined to stays below the directory it began with as long as no text writes a
path with a root of its own and none leads back up. The parts of a class name never lead back up,
since their dots have separated them. They may begin with a slash, and then nothing is left of the
directory.
-/

namespace JarAtlas

open Text

namespace Path

/-- The text writes a path with a root of its own. -/
def IsRooted (text : Text) : Prop := text.head? = some '/'

instance (text : Text) : Decidable (IsRooted text) := inferInstanceAs (Decidable (_ = _))

/-- The path leads from a directory down to something in it, and never back up. -/
def IsBelow (directory path : Path) : Prop :=
  path.root = directory.root ∧
    ∃ below, below ≠ [] ∧ (".." : Text) ∉ below ∧ path.segments = directory.segments ++ below

/-! ### Joined texts -/

theorem rootOf_eq_relative {text : Text} :
    rootOf (text.takeWhile (· = '/')).length = .relative ↔ ¬ IsRooted text := by
  cases text with
  | nil => exact iff_of_true rfl (by simp [IsRooted])
  | cons character rest =>
    by_cases slash : character = '/'
    · have some : rootOf ((rest.takeWhile (· = '/')).length + 1) ≠ .relative := by
        unfold rootOf
        split <;> simp_all
      simpa [IsRooted, slash] using some
    · exact iff_of_true (by simp [slash, rootOf]) (by simpa [IsRooted] using slash)

theorem join_of_not_isRooted {base : Path} {text : Text} (relative : ¬ IsRooted text) :
    base.join text = { base with segments := base.segments ++ segmentsOf text } :=
  if_pos (rootOf_eq_relative.mpr relative)

/-- A text that writes a root of its own leaves nothing of what it is joined to. -/
theorem join_of_isRooted {base : Path} {text : Text} (rooted : IsRooted text) :
    base.join text = ofText text :=
  if_neg fun relative => rootOf_eq_relative.mp relative rooted

theorem foldl_join_of_not_isRooted {texts : List Text} (base : Path)
    (relative : ∀ text ∈ texts, ¬ IsRooted text) :
    texts.foldl join base = { base with segments := base.segments ++ texts.flatMap segmentsOf } := by
  induction texts generalizing base with
  | nil => simp
  | cons text texts ih =>
    rw [List.foldl_cons, join_of_not_isRooted (relative text List.mem_cons_self),
      ih _ fun other member => relative other (List.mem_cons_of_mem _ member)]
    simp

/-- Once a text writes a root of its own, it does not matter where the path began. -/
theorem foldl_join_of_isRooted {texts : List Text} (rooted : ∃ text ∈ texts, IsRooted text) :
    ∃ result : Path, (∀ base : Path, texts.foldl join base = result) ∧
      ∀ segment ∈ result.segments, ∃ text ∈ texts, segment ∈ segmentsOf text := by
  induction texts using List.reverseRecOn with
  | nil => simp at rooted
  | append_singleton texts last ih =>
    by_cases lastRooted : IsRooted last
    · refine ⟨ofText last, fun base => ?_, fun segment member => ⟨last, by simp, member⟩⟩
      rw [List.foldl_append]
      exact join_of_isRooted lastRooted
    · have earlier : ∃ text ∈ texts, IsRooted text := by
        rcases rooted with ⟨text, member, textRooted⟩
        rcases List.mem_append.mp member with before | isLast
        · exact ⟨text, before, textRooted⟩
        · rw [List.mem_singleton.mp isLast] at textRooted
          exact absurd textRooted lastRooted
      rcases ih earlier with ⟨result, same, known⟩
      refine ⟨result.join last, fun base => ?_, fun segment member => ?_⟩
      · rw [List.foldl_append, same]
        rfl
      · rw [join_of_not_isRooted lastRooted] at member
        rcases List.mem_append.mp member with before | new
        · rcases known segment before with ⟨text, isText, isSegment⟩
          exact ⟨text, List.mem_append_left _ isText, isSegment⟩
        · exact ⟨last, by simp, new⟩

/-! ### Names with an ending -/

/-- The file endings that are written behind names. -/
structure IsFileEnding (ending : Text) : Prop where
  noSlash : '/' ∉ ending
  long : 2 < ending.length

theorem IsFileEnding.append_ne_up {ending : Text} (isEnding : IsFileEnding ending) (name : Text) :
    name ++ ending ≠ ".." := by
  intro isUp
  have longer := isEnding.long
  have lengths := congrArg List.length isUp
  rw [List.length_append] at lengths
  change _ = 2 at lengths
  omega

theorem not_mem_segmentsOf {text segment : Text} {character : Char} (absent : character ∉ text)
    (isSegment : segment ∈ segmentsOf text) : character ∉ segment :=
  fun member => absent (subset_of_mem_pieces (List.mem_filter.mp isSegment).1 member)

/-- A text without dots and a file ending write directories without dots and a file. -/
theorem exists_segmentsOf_append {front ending : Text} (noDot : '.' ∉ front)
    (isEnding : IsFileEnding ending) : ∃ directories name,
      segmentsOf (front ++ ending) = directories ++ [name ++ ending] ∧
        ∀ directory ∈ directories, '.' ∉ directory := by
  rcases exists_pieces_append front isEnding.noSlash with ⟨before, name, pieces, extended⟩
  refine ⟨before.filter fun segment => !segment.isEmpty && segment != ['.'], name, ?_, ?_⟩
  · have longer : 2 < (name ++ ending).length := by
      rw [List.length_append]
      exact Nat.lt_add_left _ isEnding.long
    have kept : (!(name ++ ending).isEmpty && (name ++ ending) != ['.']) = true := by
      rw [Bool.and_eq_true, Bool.not_eq_true', List.isEmpty_eq_false_iff, bne_iff_ne]
      constructor
      · intro isEmpty
        simp [isEmpty] at longer
      · intro isDot
        simp [isDot] at longer
    rw [segmentsOf, extended, List.filter_append, List.filter_cons, if_pos kept, List.filter_nil]
  · intro directory member isDotted
    have isPiece : directory ∈ Text.pieces '/' front := by
      rw [pieces]
      exact List.mem_append_left _ (List.mem_filter.mp member).1
    exact noDot (subset_of_mem_pieces isPiece isDotted)

/-- A path that a name with an ending is joined to ends in that name. -/
theorem exists_segments_join {base : Path} {front ending : Text} (noDot : '.' ∉ front)
    (isEnding : IsFileEnding ending) :
    ∃ above name, (base.join (front ++ ending)).segments = above ++ [name ++ ending] := by
  rcases exists_segmentsOf_append noDot isEnding with ⟨directories, name, segments, -⟩
  by_cases rooted : IsRooted (front ++ ending)
  · exact ⟨directories, name, by rw [join_of_isRooted rooted]; exact segments⟩
  · refine ⟨base.segments ++ directories, name, ?_⟩
    rw [join_of_not_isRooted rooted, segments]
    exact (List.append_assoc _ _ _).symm

/-- A text without dots and a file ending write a path that leads down. -/
theorem isBelow_join {base : Path} {front ending : Text} (noDot : '.' ∉ front)
    (isEnding : IsFileEnding ending) (relative : ¬ IsRooted (front ++ ending)) :
    base.IsBelow (base.join (front ++ ending)) := by
  rcases exists_segmentsOf_append noDot isEnding with ⟨directories, name, segments, noDots⟩
  rw [join_of_not_isRooted relative, segments]
  refine ⟨rfl, _, by simp, ?_, rfl⟩
  rw [List.mem_append, List.mem_singleton, not_or]
  constructor
  · intro up
    exact noDots _ up List.mem_cons_self
  · exact (isEnding.append_ne_up name).symm

end Path

namespace ClassName

open Path

/-- How the file of a source ends. -/
theorem isFileEnding_java : IsFileEnding ".java" := ⟨by decide, by decide⟩

/-- The texts that are joined to the directory of the cache. -/
def cacheParts (className : Text) : List Text :=
  pieces '.' (package className) ++ [simple className ++ ".java"]

theorem cachePath_eq (className : Text) (project : Path) : cachePath className project =
    (cacheParts className).foldl Path.join (project.join cacheDirectory) := by
  rw [cacheParts, List.foldl_append]
  rfl

theorem isPlain_cachePath {project : Path} (plain : project.IsPlain) (className : Text) :
    (cachePath className project).IsPlain := by
  rw [cachePath_eq]
  exact (plain.join cacheDirectory).foldl_join (cacheParts className)

theorem simple_mem_pieces (className : Text) : simple className ∈ pieces '.' className := by
  rw [pieces_of_cutLast, simple]
  cases cutLast '.' className <;> simp

theorem not_mem_simple (className : Text) : '.' ∉ simple className :=
  not_mem_of_mem_pieces (simple_mem_pieces className)

/-- The path of a cached source ends in the name of a file. -/
theorem exists_segments_cachePath (className : Text) (project : Path) :
    ∃ (above : List Text) (name : Text),
      (cachePath className project).segments = above ++ [name ++ ".java"] :=
  exists_segments_join (not_mem_simple className) isFileEnding_java

theorem isRooted_append_java {text : Text} : IsRooted (text ++ ".java") ↔ IsRooted text := by
  cases text <;> simp [IsRooted]

/-- The parts that are joined write a root of their own where the pieces of the name do. -/
theorem exists_isRooted_cacheParts {className : Text} :
    (∃ part ∈ cacheParts className, IsRooted part) ↔
      ∃ piece ∈ pieces '.' className, IsRooted piece := by
  have bare : ¬ IsRooted [] := by simp [IsRooted]
  rw [pieces_of_cutLast, cacheParts, package, simple]
  simp only [List.mem_append, List.mem_singleton, or_and_right, exists_or, exists_eq_left,
    isRooted_append_java]
  cases cutLast '.' className with
  | none => simp [bare, pieces]
  | some halves => simp [or_and_right, exists_or]

/-- No part of a class name leads back up or into the directory of the cache. -/
theorem segment_of_cacheParts {className part segment : Text} (isPart : part ∈ cacheParts className)
    (isSegment : segment ∈ segmentsOf part) :
    segment ≠ ".." ∧ segment ≠ cacheDirectory := by
  have dotted : '.' ∉ segment → segment ≠ ".." ∧ segment ≠ cacheDirectory := by
    intro noDot
    constructor
    all_goals
      rintro rfl
      exact noDot (by decide)
  rcases List.mem_append.mp isPart with inPackage | isLast
  · exact dotted (not_mem_segmentsOf (not_mem_of_mem_pieces inPackage) isSegment)
  · rcases exists_segmentsOf_append (not_mem_simple className) isFileEnding_java
      with ⟨directories, name, segments, noDots⟩
    rw [List.mem_singleton.mp isLast, segments, List.mem_append, List.mem_singleton] at isSegment
    rcases isSegment with isDirectory | isFile
    · exact dotted (noDots segment isDirectory)
    · have ends : segment.getLast? = some 'a' := by
        rw [isFile, List.getLast?_append]
        rfl
      constructor
      all_goals
        rintro rfl
        exact absurd ends (by decide)

/-- The path of a cached source leads into the project's cache exactly if no piece of the class name
begins with a slash. -/
theorem isBelow_cachePath_iff (className : Text) (project : Path) :
    (project.join cacheDirectory).IsBelow (cachePath className project) ↔
      ∀ piece ∈ pieces '.' className, ¬ IsRooted piece := by
  rw [cachePath_eq]
  by_cases rooted : ∃ part ∈ cacheParts className, IsRooted part
  · rcases foldl_join_of_isRooted rooted with ⟨result, same, known⟩
    rcases exists_isRooted_cacheParts.mp rooted with ⟨piece, isPiece, pieceRooted⟩
    rw [same]
    refine iff_of_false ?_ fun relative => relative piece isPiece pieceRooted
    rintro ⟨-, below, -, -, segments⟩
    have inCache : (cacheDirectory : Text) ∈ result.segments := by
      rw [segments, join_of_not_isRooted (by decide)]
      exact List.mem_append_left _ (List.mem_append_right _ (by decide))
    rcases known _ inCache with ⟨part, isPart, isSegment⟩
    exact (segment_of_cacheParts isPart isSegment).2 rfl
  · have relative : ∀ piece ∈ pieces '.' className, ¬ IsRooted piece := fun piece isPiece isRooted =>
      rooted (exists_isRooted_cacheParts.mpr ⟨piece, isPiece, isRooted⟩)
    refine iff_of_true ?_ relative
    rw [foldl_join_of_not_isRooted _ fun part isPart isRooted => rooted ⟨part, isPart, isRooted⟩]
    refine ⟨rfl, _, ?_, ?_, rfl⟩
    · rcases exists_segmentsOf_append (not_mem_simple className) isFileEnding_java with ⟨directories, name, segments, -⟩
      rw [cacheParts, List.flatMap_append, List.flatMap_singleton, segments]
      simp
    · intro up
      rcases List.mem_flatMap.mp up with ⟨part, isPart, isSegment⟩
      exact (segment_of_cacheParts isPart isSegment).1 rfl

/-- Where a piece of the class name begins with a slash, all projects share one path. -/
theorem cachePath_eq_of_isRooted {className : Text}
    (rooted : ∃ piece ∈ pieces '.' className, IsRooted piece) (project other : Path) :
    cachePath className project = cachePath className other := by
  rcases foldl_join_of_isRooted (exists_isRooted_cacheParts.mpr rooted) with ⟨result, same, -⟩
  rw [cachePath_eq, cachePath_eq, same, same]

end ClassName

end JarAtlas
