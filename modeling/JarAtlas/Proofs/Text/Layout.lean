import JarAtlas.Proofs.Text.Trimming
import Mathlib.Data.List.Induction

/-!
# How texts are written in lines

The lines of a text, told without cutting it: each stands in front of a line break, except that the
last may end with the text. Every text is written in exactly one list of lines, so a text may be
laid out with other breaks, and its lines stay. So they do where all line breaks are made alike.
-/

namespace JarAtlas.Text

/-- What ends a line: one character at which a line may end, or a carriage return with a line feed.
-/
inductive IsBreak : Text → Prop
  | character {character : Char} (breaks : isLineBreak character = true) : IsBreak [character]
  | both : IsBreak ['\r', '\n']

/-- No line ends inside the text. -/
def IsOneLine (text : Text) : Prop := ∀ character ∈ text, isLineBreak character = false

/-- The text is written in the lines. A carriage return is not a break of its own in front of a line
feed. -/
inductive WrittenIn : List Text → Text → Prop
  | nil : WrittenIn [] []
  | last {line : Text} (oneLine : IsOneLine line) (nonempty : line ≠ []) : WrittenIn [line] line
  | line {line ending text : Text} {lines : List Text} (oneLine : IsOneLine line)
      (ends : IsBreak ending) (apart : ending = ['\r'] → text.head? ≠ some '\n')
      (others : WrittenIn lines text) : WrittenIn (line :: lines) (line ++ (ending ++ text))

theorem isBlank_of_isLineBreak {character : Char} (breaks : isLineBreak character = true) :
    isBlank character = true := by
  simp only [isLineBreak, isBlank, Bool.or_eq_true, Bool.and_eq_true, decide_eq_true_eq,
    beq_iff_eq] at breaks ⊢
  omega

theorem ne_return_of_isLineBreak {character : Char} (inside : isLineBreak character = false) :
    character ≠ '\r' := by
  rintro rfl
  contradiction

/-- The lines of a text, and whether it begins with a line feed. -/
def linesBehind (text : Text) : LinesBehind := text.foldr LinesBehind.add ⟨[], false⟩

theorem linesBehind_cons (character : Char) (text : Text) :
    linesBehind (character :: text) = (linesBehind text).add character := rfl

theorem startsWithFeed_linesBehind (text : Text) :
    (linesBehind text).startsWithFeed = true ↔ text.head? = some '\n' := by
  cases text with
  | nil => simp [linesBehind]
  | cons character text =>
    rw [linesBehind_cons, LinesBehind.add]
    split_ifs with completes breaks
    · simp [completes.1]
    · simp
    · have inside : character ≠ '\n' := by
        rintro rfl
        exact breaks rfl
      split <;> simp [inside]

/-- A break opens an empty line in front of the others. -/
theorem linesBehind_break {ending : Text} (text : Text) (ends : IsBreak ending)
    (apart : ending = ['\r'] → text.head? ≠ some '\n') :
    ∃ feed, linesBehind (ending ++ text) = ⟨[] :: lines text, feed⟩ := by
  cases ends with
  | @character character breaks =>
    refine ⟨character == '\n', ?_⟩
    change (linesBehind text).add character = _
    have incomplete : ¬(character = '\r' ∧ (linesBehind text).startsWithFeed = true) := by
      rintro ⟨rfl, feed⟩
      exact apart rfl ((startsWithFeed_linesBehind text).mp feed)
    rw [LinesBehind.add, if_neg incomplete, if_pos breaks]
    rfl
  | both =>
    refine ⟨false, ?_⟩
    change ((linesBehind text).add '\n').add '\r' = _
    have feed : (linesBehind text).add '\n' = ⟨[] :: lines text, true⟩ := by
      simp [LinesBehind.add, isLineBreak, lines, linesBehind]
    rw [feed]
    simp [LinesBehind.add]

/-- What stands in front of a break belongs to the line that the break has opened. -/
theorem lines_append_of_linesBehind {line text : Text} {others : List Text} {feed : Bool}
    (oneLine : IsOneLine line) (opened : linesBehind text = ⟨[] :: others, feed⟩) :
    lines (line ++ text) = line :: others := by
  change (linesBehind (line ++ text)).lines = _
  induction line with
  | nil => rw [List.nil_append, opened]
  | cons character line ih =>
    have inside : isLineBreak character = false := oneLine character List.mem_cons_self
    have rest := ih fun character member => oneLine character (List.mem_cons_of_mem _ member)
    rw [List.cons_append, linesBehind_cons, LinesBehind.add,
      if_neg (fun completes => ne_return_of_isLineBreak inside completes.1),
      if_neg (by simp [inside]), rest]

/-- A text without a break is its own only line. -/
theorem lines_of_isOneLine {line : Text} (oneLine : IsOneLine line) (nonempty : line ≠ []) :
    lines line = [line] := by
  change (linesBehind line).lines = _
  induction line with
  | nil => contradiction
  | cons character line ih =>
    have inside : isLineBreak character = false := oneLine character List.mem_cons_self
    have behindRest : (linesBehind line).lines = if line = [] then [] else [line] := by
      split_ifs with empty
      · rw [empty]
        rfl
      · exact ih (fun character member => oneLine character (List.mem_cons_of_mem _ member)) empty
    rw [linesBehind_cons, LinesBehind.add,
      if_neg (fun completes => ne_return_of_isLineBreak inside completes.1),
      if_neg (by simp [inside]), behindRest]
    split_ifs with empty
    · rw [empty]
    · rfl

theorem lines_of_writtenIn {texts : List Text} {text : Text} (written : WrittenIn texts text) :
    lines text = texts := by
  induction written with
  | nil => rfl
  | last oneLine nonempty => exact lines_of_isOneLine oneLine nonempty
  | @line line ending text others oneLine ends apart written ih =>
    rcases linesBehind_break text ends apart with ⟨feed, opened⟩
    rw [lines_append_of_linesBehind oneLine opened, ih]

/-- One more character in front of a text begins its first line or ends one of its own, unless it is
a carriage return in front of a line feed. -/
theorem exists_writtenIn_cons {character : Char} {text : Text}
    (apart : character = '\r' → text.head? ≠ some '\n') (shorter : ∃ texts, WrittenIn texts text) :
    ∃ texts, WrittenIn texts (character :: text) := by
  rcases shorter with ⟨texts, written⟩
  cases breaks : isLineBreak character with
  | true =>
    refine ⟨[] :: texts, .line (by simp [IsOneLine]) (.character breaks) ?_ written⟩
    intro same
    exact apart (List.singleton_inj.mp same)
  | false =>
    cases written with
    | nil => exact ⟨[[character]], .last (by simpa [IsOneLine] using breaks) (List.cons_ne_nil _ _)⟩
    | last oneLine nonempty =>
      refine ⟨[character :: text], .last ?_ (List.cons_ne_nil _ _)⟩
      simpa [IsOneLine, breaks] using oneLine
    | @line line ending rest others oneLine ends apartRest written =>
      refine ⟨(character :: line) :: others, .line ?_ ends apartRest written⟩
      simpa [IsOneLine, breaks] using oneLine

theorem exists_writtenIn (text : Text) : ∃ texts, WrittenIn texts text := by
  induction text using List.twoStepInduction with
  | nil => exact ⟨[], .nil⟩
  | singleton character => exact exists_writtenIn_cons (by simp) ⟨[], .nil⟩
  | cons_cons character next text behindBoth behindOne =>
    by_cases both : character = '\r' ∧ next = '\n'
    · rcases behindBoth with ⟨texts, written⟩
      rw [both.1, both.2]
      exact ⟨[] :: texts, .line (by simp [IsOneLine]) .both (by simp) written⟩
    · apply exists_writtenIn_cons _ (behindOne next)
      rintro isReturn isFeed
      exact both ⟨isReturn, Option.some.inj isFeed⟩

/-- The lines of a text are exactly those that it is written in. -/
theorem lines_eq_iff {texts : List Text} {text : Text} : lines text = texts ↔ WrittenIn texts text := by
  refine ⟨?_, lines_of_writtenIn⟩
  rintro rfl
  rcases exists_writtenIn text with ⟨texts, written⟩
  rw [lines_of_writtenIn written]
  exact written

/-- Whatever stands in a text and is not white space stands in one of its lines. -/
theorem exists_mem_lines {text : Text} {character : Char} (member : character ∈ text)
    (visible : isBlank character = false) : ∃ line ∈ lines text, character ∈ line := by
  have written : WrittenIn (lines text) text := lines_eq_iff.mp rfl
  generalize lines text = texts at written ⊢
  induction written with
  | nil => contradiction
  | last oneLine nonempty => exact ⟨_, List.mem_singleton_self _, member⟩
  | @line line ending text others oneLine ends apart written ih =>
    rcases List.mem_append.mp member with inLine | member
    · exact ⟨line, List.mem_cons_self, inLine⟩
    · rcases List.mem_append.mp member with inBreak | inRest
      · have blank : isBlank character = true := by
          cases ends with
          | character breaks => exact List.mem_singleton.mp inBreak ▸ isBlank_of_isLineBreak breaks
          | both =>
            rcases List.mem_cons.mp inBreak with rfl | isFeed
            · decide
            · rw [List.mem_singleton.mp isFeed]
              decide
        rw [blank] at visible
        contradiction
      · rcases ih inRest with ⟨other, isLine, inOther⟩
        exact ⟨other, List.mem_cons_of_mem _ isLine, inOther⟩

/-! ### Other breaks -/

theorem lines_break {ending : Text} (text : Text) (ends : IsBreak ending)
    (apart : ending = ['\r'] → text.head? ≠ some '\n') : lines (ending ++ text) = [] :: lines text := by
  rcases linesBehind_break text ends apart with ⟨feed, opened⟩
  change (linesBehind (ending ++ text)).lines = _
  rw [opened]

/-- What stands in front of a text matters for its lines only. -/
theorem lines_cons_congr {character : Char} {text other : Text} (visible : character ≠ '\r')
    (same : lines text = lines other) : lines (character :: text) = lines (character :: other) := by
  change ((linesBehind text).add character).lines = ((linesBehind other).add character).lines
  have sameLines : (linesBehind text).lines = (linesBehind other).lines := same
  simp only [LinesBehind.add, visible, false_and, if_false, sameLines]

/-- A text has the same lines with all its line breaks made alike. -/
theorem lines_unifyBreaks (text : Text) : lines (unifyBreaks text) = lines text := by
  have feed (text : Text) : lines ('\n' :: text) = [] :: lines text :=
    lines_break text (.character rfl) (by simp)
  induction text using unifyBreaks.induct with
  | case1 => rfl
  | case2 rest ih =>
    rw [unifyBreaks, feed, ih]
    exact (lines_break rest .both (by simp)).symm
  | case3 rest noFeed ih =>
    have apart : rest.head? ≠ some '\n' := by
      intro begins
      rcases List.head?_eq_some_iff.mp begins with ⟨others, split⟩
      exact noFeed others split
    rw [unifyBreaks, feed, ih]
    · exact (lines_break rest (.character rfl) fun _ => apart).symm
    · exact noFeed
  | case4 character rest noPair noReturn ih =>
    rw [unifyBreaks]
    · exact lines_cons_congr (fun isReturn => noReturn isReturn) ih
    · exact noPair
    · exact noReturn

theorem isBlankText_unifyBreaks (text : Text) :
    isBlankText (unifyBreaks text) = isBlankText text := by
  induction text using unifyBreaks.induct with
  | case1 => rfl
  | case2 rest ih =>
    rw [unifyBreaks]
    exact ih
  | case3 rest noFeed ih =>
    rw [unifyBreaks]
    · exact ih
    · exact noFeed
  | case4 character rest noPair noReturn ih =>
    rw [unifyBreaks]
    · exact congrArg (isBlank character && ·) ih
    · exact noPair
    · exact noReturn

end JarAtlas.Text
