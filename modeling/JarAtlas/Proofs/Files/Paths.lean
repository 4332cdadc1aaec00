import JarAtlas.FileTree
import JarAtlas.Proofs.Text.Cuts

/-!
# Paths and their texts

A path that has been read from texts is plain: none of its segments is empty, a single dot or holds
a slash. The text of a plain path determines the path, so files may be told apart by the texts of
their paths.
-/

namespace JarAtlas

open Text

namespace Path

/-- The segments are those of a path that has been read from texts. -/
def IsPlain (path : Path) : Prop :=
  ∀ segment ∈ path.segments, segment ≠ [] ∧ segment ≠ ['.'] ∧ '/' ∉ segment

theorem isPlain_ofText (text : Text) : (ofText text).IsPlain := by
  intro segment member
  rcases List.mem_filter.mp member with ⟨isPiece, kept⟩
  simp only [Bool.and_eq_true, Bool.not_eq_true', List.isEmpty_eq_false_iff, bne_iff_ne] at kept
  exact ⟨kept.1, kept.2, not_mem_of_mem_pieces isPiece⟩

theorem IsPlain.join {base : Path} (plain : base.IsPlain) (text : Text) :
    (base.join text).IsPlain := by
  have added := isPlain_ofText text
  unfold Path.join append
  split_ifs
  · intro segment member
    rcases List.mem_append.mp member with old | new
    · exact plain segment old
    · exact added segment new
  · exact added

theorem IsPlain.foldl_join {base : Path} (plain : base.IsPlain) (texts : List Text) :
    (texts.foldl Path.join base).IsPlain := by
  induction texts generalizing base with
  | nil => exact plain
  | cons text texts ih => exact ih (plain.join text)

/-- A name is a single segment. -/
theorem segmentsOf_name {name : Text} (nonempty : name ≠ []) (noSlash : '/' ∉ name)
    (notDot : name ≠ ['.']) : segmentsOf name = [name] := by
  simp [segmentsOf, pieces_of_not_mem noSlash, nonempty, notDot]

/-- How many slashes a root begins with. -/
def slashes : PathRoot → Nat
  | .relative => 0
  | .absolute => 1
  | .doubleSlash => 2

theorem text_root (root : PathRoot) : root.text = List.replicate (slashes root) '/' := by
  cases root <;> rfl

theorem rootOf_slashes (root : PathRoot) : rootOf (slashes root) = root := by
  cases root <;> rfl

theorem segmentsOf_slashes (count : Nat) (text : Text) :
    segmentsOf (List.replicate count '/' ++ text) = segmentsOf text := by
  induction count with
  | zero => rfl
  | succ count ih =>
    rw [List.replicate_succ, List.cons_append, ← ih]
    rfl

theorem IsPlain.segmentsOf_join {path : Path} (plain : path.IsPlain) :
    segmentsOf (Text.join "/" path.segments) = path.segments := by
  by_cases empty : path.segments = []
  · rw [empty]
    rfl
  · have split : pieces '/' (Text.join ['/'] path.segments) = path.segments :=
      pieces_join empty fun segment member => (plain segment member).2.2
    change (pieces '/' (Text.join ['/'] path.segments)).filter _ = _
    rw [split, List.filter_eq_self]
    intro segment member
    rcases plain segment member with ⟨nonempty, notDot, -⟩
    simp [nonempty, notDot]

/-- The segments of a plain path do not begin with a slash. -/
theorem IsPlain.takeWhile_join {path : Path} (plain : path.IsPlain) :
    (Text.join "/" path.segments).takeWhile (· = '/') = [] := by
  cases segments : path.segments with
  | nil => rfl
  | cons segment others =>
    have first := plain segment (segments ▸ List.mem_cons_self)
    rcases List.exists_cons_of_ne_nil first.1 with ⟨character, rest, rfl⟩
    have noSlash : character ≠ '/' := by
      rintro rfl
      exact first.2.2 List.mem_cons_self
    cases others with
    | nil => simp [Text.join, noSlash]
    | cons next others => simp [join_cons_cons, noSlash]

/-- The text of a plain path writes the path. -/
theorem IsPlain.ofText_text {path : Path} (plain : path.IsPlain) : ofText path.text = path := by
  by_cases empty : path.root = .relative ∧ path.segments.isEmpty = true
  · have bare : path = { root := .relative, segments := [] } := by
      cases path
      simp_all
    rw [bare]
    rfl
  · have slashed : (path.root.text ++ Text.join "/" path.segments).takeWhile (· = '/') =
        List.replicate (slashes path.root) '/' := by
      rw [text_root, List.takeWhile_append_of_pos (by simp), plain.takeWhile_join, List.append_nil]
    unfold text
    rw [if_neg empty, ofText, slashed, List.length_replicate, rootOf_slashes, text_root,
      segmentsOf_slashes, plain.segmentsOf_join]

theorem IsPlain.eq_of_text_eq {path other : Path} (plain : path.IsPlain) (otherPlain : other.IsPlain)
    (same : path.text = other.text) : path = other := by
  rw [← plain.ofText_text, same, otherPlain.ofText_text]

/-! ### Paths as they are written -/

/-- The text of a path ends with its last segment. -/
theorem suffix_text {path : Path} {front : List Text} {last : Text}
    (segments : path.segments = front ++ [last]) : last <:+ path.text := by
  have some : ¬(path.root = .relative ∧ path.segments.isEmpty = true) := by simp [segments]
  unfold text
  rw [if_neg some, segments]
  by_cases only : front = []
  · rw [only]
    exact List.suffix_append _ _
  · rw [join_append_singleton last only, ← List.append_assoc, ← List.append_assoc]
    exact List.suffix_append _ _

/-- The text of a plain path neither is empty nor asks for a directory. -/
theorem IsPlain.lookupWritten_text {path : Path} (plain : path.IsPlain) (some : path.segments ≠ [])
    (files : FileTree) (workingDirectory : Place) :
    files.lookupWritten workingDirectory path.text = files.lookup workingDirectory path := by
  have split := (List.dropLast_concat_getLast some).symm
  generalize path.segments.dropLast = front at split
  generalize path.segments.getLast some = last at split
  have isSuffix := suffix_text split
  rcases plain last (by simp [split]) with ⟨nonempty, notDot, noSlash⟩
  have short : 1 ≤ last.length := List.length_pos_iff.mpr nonempty
  have someText : path.text.isEmpty = false := by
    rw [List.isEmpty_eq_false_iff]
    intro bare
    rw [bare, List.suffix_nil] at isSuffix
    exact nonempty isSuffix
  have noSlashBehind : endsWith "/" path.text = false := by
    rw [Bool.eq_false_iff]
    intro ends
    apply noSlash
    exact (List.suffix_of_suffix_length_le (endsWith_iff.mp ends) isSuffix short).subset (by decide)
  have noDotBehind : endsWith "/." path.text = false := by
    rw [Bool.eq_false_iff]
    intro ends
    rcases Nat.lt_or_ge 1 last.length with long | single
    · apply noSlash
      exact (List.suffix_of_suffix_length_le (endsWith_iff.mp ends) isSuffix long).subset
        (by decide)
    · rcases List.length_eq_one_iff.mp (le_antisymm single short) with ⟨character, rfl⟩
      have isDot : [character] <:+ ("/." : Text) :=
        List.suffix_of_suffix_length_le isSuffix (endsWith_iff.mp ends) (by simp)
      apply notDot
      simpa using List.suffix_iff_eq_drop.mp isDot
  unfold FileTree.lookupWritten
  rw [someText, noSlashBehind, noDotBehind, plain.ofText_text]
  by_cases long : FileTree.pathLimit < byteCount path.text
  · simp [FileTree.lookup, FileTree.locate, long]
  · cases files.lookup workingDirectory path with
    | error fault => simp [long]
    | ok node => cases node <;> simp [long]

end Path

end JarAtlas
