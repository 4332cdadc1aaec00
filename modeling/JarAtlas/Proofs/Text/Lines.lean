import JarAtlas.Proofs.Text.Cuts
import JarAtlas.Proofs.Text.Trimming

/-!
# Lines of longer texts

A line feed behind a text begins a new line, whatever the text ends in, so the lines of a text stay
when more is written below it. Between the two at most an empty line opens: the feed ends the last
line if that has no break of its own, it completes a carriage return, and behind any other break it
ends an empty line. Making all line breaks alike twice is the same as doing it once.
-/

namespace JarAtlas.Text

theorem LinesBehind.add_append (character : Char) {lines : List Text} (others : List Text)
    (feed : Bool) (nonempty : lines ≠ []) :
    LinesBehind.add character ⟨lines ++ others, feed⟩ =
      ⟨(LinesBehind.add character ⟨lines, feed⟩).lines ++ others,
        (LinesBehind.add character ⟨lines, feed⟩).startsWithFeed⟩ := by
  cases lines with
  | nil => exact absurd rfl nonempty
  | cons line lines =>
    simp only [LinesBehind.add, List.cons_append]
    split_ifs <;> simp

theorem LinesBehind.add_ne_nil (character : Char) {lines : List Text} (feed : Bool)
    (nonempty : lines ≠ []) : (LinesBehind.add character ⟨lines, feed⟩).lines ≠ [] := by
  cases lines with
  | nil => exact absurd rfl nonempty
  | cons line lines =>
    simp only [LinesBehind.add]
    split_ifs <;> simp

/-- What a line feed behind a text opens in front of the lines below. -/
theorem foldr_add_feed (character : Char) (text : Text) (below : List Text) :
    ∃ opened : List Text, (∀ line ∈ opened, line = []) ∧
      (character :: text).foldr LinesBehind.add ⟨[] :: below, true⟩ =
        ⟨((character :: text).foldr LinesBehind.add ⟨[], false⟩).lines ++ (opened ++ below),
          ((character :: text).foldr LinesBehind.add ⟨[], false⟩).startsWithFeed⟩ ∧
      ((character :: text).foldr LinesBehind.add ⟨[], false⟩).lines ≠ [] := by
  induction text generalizing character with
  | nil =>
    by_cases completed : character = '\r'
    · subst completed
      exact ⟨[], by simp, by simp [LinesBehind.add, isLineBreak], by
        simp [LinesBehind.add, isLineBreak]⟩
    · cases breaks : isLineBreak character with
      | true => exact ⟨[[]], by simp, by simp [LinesBehind.add, completed, breaks], by
          simp [LinesBehind.add, breaks]⟩
      | false => exact ⟨[], by simp, by simp [LinesBehind.add, completed, breaks], by
          simp [LinesBehind.add, breaks]⟩
  | cons next text ih =>
    rcases ih next with ⟨opened, blank, same, nonempty⟩
    refine ⟨opened, blank, ?_, ?_⟩
    · rw [List.foldr_cons, same, LinesBehind.add_append _ _ _ nonempty]
      rfl
    · exact LinesBehind.add_ne_nil _ _ nonempty

/-- The lines of a text come first when more is written below it. -/
theorem lines_append_feed (text below : Text) :
    ∃ opened : List Text, (∀ line ∈ opened, line = []) ∧
      lines (text ++ '\n' :: below) = lines text ++ (opened ++ lines below) := by
  have feed : ('\n' :: below).foldr LinesBehind.add ⟨[], false⟩ = ⟨[] :: lines below, true⟩ := by
    simp [LinesBehind.add, isLineBreak, lines]
  cases text with
  | nil =>
    refine ⟨[[]], by simp, ?_⟩
    rw [List.nil_append, lines, feed]
    rfl
  | cons character text =>
    rcases foldr_add_feed character text (lines below) with ⟨opened, blank, same, -⟩
    refine ⟨opened, blank, ?_⟩
    rw [lines, List.foldr_append, feed, same, ← lines]

/-- More texts joined by line feeds are written below the ones in front. -/
theorem join_take_append {texts : List Text} {count longer : Nat} (separator : Text)
    (inOrder : count ≤ longer) (nonempty : texts.take count ≠ []) :
    join separator (texts.take longer) = join separator (texts.take count) ∨
      join separator (texts.take longer) =
        join separator (texts.take count) ++
          (separator ++ join separator ((texts.take longer).drop count)) := by
  have split : texts.take longer = texts.take count ++ (texts.take longer).drop count := by
    have cut := List.take_append_drop count (texts.take longer)
    rw [List.take_take, Nat.min_eq_left inOrder] at cut
    exact cut.symm
  cases more : (texts.take longer).drop count with
  | nil =>
    left
    rw [more, List.append_nil] at split
    rw [split]
  | cons next others =>
    right
    rw [more] at split
    rw [split]
    exact join_append separator nonempty (List.cons_ne_nil next others)

/-! ### Line breaks made alike -/

theorem not_mem_unifyBreaks (text : Text) : '\r' ∉ unifyBreaks text := by
  induction text using unifyBreaks.induct with
  | case1 => simp [unifyBreaks]
  | case2 rest ih => simpa [unifyBreaks] using ih
  | case3 rest noFeed ih =>
    rw [unifyBreaks]
    · simpa using ih
    · exact noFeed
  | case4 character rest noPair noReturn ih =>
    rw [unifyBreaks]
    · rw [List.mem_cons, not_or]
      exact ⟨fun isReturn => noReturn isReturn.symm, ih⟩
    · exact noPair
    · exact noReturn

theorem unifyBreaks_of_not_mem {text : Text} (noReturn : '\r' ∉ text) : unifyBreaks text = text := by
  induction text with
  | nil => rfl
  | cons character rest ih =>
    rw [List.mem_cons, not_or] at noReturn
    rw [unifyBreaks, ih noReturn.2]
    · rintro more rfl
      exact absurd rfl noReturn.1
    · rintro rfl
      exact noReturn.1 rfl

/-- Line breaks that are alike stay as they are. -/
theorem unifyBreaks_unifyBreaks (text : Text) : unifyBreaks (unifyBreaks text) = unifyBreaks text :=
  unifyBreaks_of_not_mem (not_mem_unifyBreaks text)

end JarAtlas.Text
