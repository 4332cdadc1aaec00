import JarAtlas.Proofs.Text.Trimming
import JarAtlas.Text.Basic

/-!
# Beginnings and cuts

How a text begins, what a text that is put together of known parts is cut into, and that the pieces
of joined texts are these texts.
-/

namespace JarAtlas.Text

theorem beginsWith_iff {start text : Text} : beginsWith start text = true ↔ start <+: text := by
  rw [beginsWith, Option.isSome_iff_exists]
  constructor
  · rintro ⟨rest, cut⟩
    exact ⟨rest, (eq_append_of_after? cut).symm⟩
  · rintro ⟨rest, rfl⟩
    exact ⟨rest, after?_append start rest⟩

theorem endsWith_iff {ending text : Text} : endsWith ending text = true ↔ ending <:+ text := by
  rw [endsWith, beginsWith_iff, List.reverse_prefix]

theorem mentions_iff {part text : Text} : mentions part text = true ↔ part <:+: text := by
  induction text with
  | nil => rw [mentions, List.isEmpty_iff, List.infix_nil]
  | cons character rest ih =>
    rw [mentions, Bool.or_eq_true, beginsWith_iff, ih, List.infix_cons_iff]

/-- A text does not begin with what has another first character. -/
theorem beginsWith_eq_false {start text : Text} (nonempty : start ≠ [])
    (differs : start.head? ≠ text.head?) : beginsWith start text = false := by
  rw [Bool.eq_false_iff]
  intro begins
  rcases beginsWith_iff.mp begins with ⟨rest, rfl⟩
  cases start with
  | nil => exact nonempty rfl
  | cons first others => exact differs rfl

/-- What a text begins with belongs to its first characters of a kind if it is of that kind. -/
theorem prefix_takeWhile {start text : Text} {kind : Char → Bool} (begins : start <+: text)
    (pure : start.all kind = true) : start <+: text.takeWhile kind := by
  rcases begins with ⟨rest, rfl⟩
  rw [List.takeWhile_append_of_pos (List.all_eq_true.mp pure)]
  exact List.prefix_append _ _

theorem cutFirst_append {separator : Char} {before : Text} (behind : Text)
    (absent : separator ∉ before) :
    cutFirst separator (before ++ separator :: behind) = some (before, behind) := by
  induction before with
  | nil => simp [cutFirst]
  | cons character before ih =>
    rw [List.mem_cons, not_or] at absent
    rw [List.cons_append, cutFirst, if_neg (Ne.symm absent.1), ih absent.2]
    rfl

theorem cutFirst_eq_none_iff {separator : Char} {text : Text} :
    cutFirst separator text = none ↔ separator ∉ text := by
  induction text with
  | nil => simp [cutFirst]
  | cons character rest ih =>
    rw [cutFirst]
    split
    · rename_i same
      simp [same]
    · rename_i differs
      simp [ih, Ne.symm differs]

theorem cutLast_eq_none {separator : Char} {text : Text} (absent : separator ∉ text) :
    cutLast separator text = none := by
  induction text with
  | nil => rfl
  | cons character rest ih =>
    rw [List.mem_cons, not_or] at absent
    rw [cutLast, ih absent.2]
    simp [Ne.symm absent.1]

theorem cutLast_append {separator : Char} {behind : Text} (before : Text)
    (absent : separator ∉ behind) :
    cutLast separator (before ++ separator :: behind) = some (before, behind) := by
  induction before with
  | nil => simp [cutLast, cutLast_eq_none absent]
  | cons character before ih => rw [List.cons_append, cutLast, ih]

theorem pieces_of_not_mem {separator : Char} {text : Text} (absent : separator ∉ text) :
    pieces separator text = [text] := by
  induction text with
  | nil => rfl
  | cons character rest ih =>
    rw [List.mem_cons, not_or] at absent
    rw [pieces, if_neg (Ne.symm absent.1), ih absent.2]

theorem pieces_append {separator : Char} {text : Text} (rest : Text) (absent : separator ∉ text) :
    pieces separator (text ++ separator :: rest) = text :: pieces separator rest := by
  induction text with
  | nil => simp [pieces]
  | cons character text ih =>
    rw [List.mem_cons, not_or] at absent
    rw [List.cons_append, pieces, if_neg (Ne.symm absent.1), ih absent.2]

/-- The pieces between the separators hold none. -/
theorem not_mem_of_mem_pieces {separator : Char} {text piece : Text}
    (isPiece : piece ∈ pieces separator text) : separator ∉ piece := by
  induction text generalizing piece with
  | nil =>
    rw [List.mem_singleton.mp isPiece]
    simp
  | cons character rest ih =>
    unfold pieces at isPiece
    split_ifs at isPiece with found
    · rcases List.mem_cons.mp isPiece with rfl | later
      · simp
      · exact ih later
    · split at isPiece
      · rw [List.mem_singleton.mp isPiece]
        simpa [eq_comm] using found
      · rename_i first others split
        rw [split] at ih
        rcases List.mem_cons.mp isPiece with rfl | later
        · simp only [List.mem_cons, not_or]
          exact ⟨Ne.symm found, ih List.mem_cons_self⟩
        · exact ih (List.mem_cons_of_mem _ later)

theorem subset_of_mem_pieces {separator : Char} {text piece : Text}
    (isPiece : piece ∈ pieces separator text) : piece ⊆ text := by
  induction text generalizing piece with
  | nil =>
    rw [List.mem_singleton.mp isPiece]
    exact List.Subset.refl _
  | cons character rest ih =>
    unfold pieces at isPiece
    split_ifs at isPiece
    · rcases List.mem_cons.mp isPiece with rfl | later
      · exact List.nil_subset _
      · exact List.subset_cons_of_subset _ (ih later)
    · split at isPiece
      · rw [List.mem_singleton.mp isPiece]
        exact List.cons_subset_cons _ (List.nil_subset _)
      · rename_i first others split
        rw [split] at ih
        rcases List.mem_cons.mp isPiece with rfl | later
        · exact List.cons_subset_cons _ (ih List.mem_cons_self)
        · exact List.subset_cons_of_subset _ (ih (List.mem_cons_of_mem _ later))

/-- A text without the separator is written behind the last piece. -/
theorem exists_pieces_append {separator : Char} {ending : Text} (text : Text)
    (absent : separator ∉ ending) : ∃ front last, pieces separator text = front ++ [last] ∧
      pieces separator (text ++ ending) = front ++ [last ++ ending] := by
  induction text with
  | nil => exact ⟨[], [], rfl, pieces_of_not_mem absent⟩
  | cons character text ih =>
    rcases ih with ⟨front, last, before, after⟩
    by_cases isSeparator : character = separator
    · refine ⟨[] :: front, last, ?_, ?_⟩
      · rw [pieces, if_pos isSeparator, before]
        rfl
      · rw [List.cons_append, pieces, if_pos isSeparator, after]
        rfl
    · cases front with
      | nil =>
        refine ⟨[], character :: last, ?_, ?_⟩
        · rw [pieces, if_neg isSeparator, before]
          rfl
        · rw [List.cons_append, pieces, if_neg isSeparator, after]
          rfl
      | cons first front =>
        refine ⟨(character :: first) :: front, last, ?_, ?_⟩
        · rw [pieces, if_neg isSeparator, before]
          rfl
        · rw [List.cons_append, pieces, if_neg isSeparator, after]
          rfl

/-- What stands behind the last separator is the last piece. -/
theorem pieces_of_cutLast (separator : Char) (text : Text) :
    pieces separator text =
      match cutLast separator text with
      | none => [text]
      | some (before, behind) => pieces separator before ++ [behind] := by
  induction text with
  | nil => rfl
  | cons character rest ih =>
    rw [pieces, ih, cutLast]
    cases cut : cutLast separator rest with
    | none => split_ifs <;> rfl
    | some halves =>
      dsimp only
      rw [pieces]
      split_ifs with isSeparator
      · rfl
      · cases front : pieces separator halves.1 with
        | nil => exact absurd front (pieces_ne_nil _ _)
        | cons first front => rfl

theorem join_cons_cons (separator text next : Text) (others : List Text) :
    join separator (text :: next :: others) =
      text ++ (separator ++ join separator (next :: others)) := by
  rw [join, List.append_assoc]
  exact List.cons_ne_nil _ _

/-- Texts without the separator come back from their joined text. -/
theorem pieces_join {separator : Char} {texts : List Text} (nonempty : texts ≠ [])
    (absent : ∀ text ∈ texts, separator ∉ text) :
    pieces separator (join [separator] texts) = texts := by
  induction texts with
  | nil => exact absurd rfl nonempty
  | cons text others ih =>
    cases others with
    | nil => exact pieces_of_not_mem (absent text List.mem_cons_self)
    | cons next others =>
      have rest := ih (List.cons_ne_nil _ _) fun text member =>
        absent text (List.mem_cons_of_mem _ member)
      rw [join_cons_cons, List.singleton_append, pieces_append _ (absent text List.mem_cons_self),
        rest]

/-! ### Words in front -/

/-- Words with a space behind each. -/
def spaced (words : List Text) : Text := words.flatMap fun word => word ++ [' ']

@[simp]
theorem spaced_cons (word : Text) (words : List Text) :
    spaced (word :: words) = word ++ ' ' :: spaced words := by
  simp [spaced]

/-- A text that begins with no blank begins with none behind words either. -/
theorem isVisible_spaced {words : List Text} {text : Text}
    (plain : ∀ word ∈ words, word.head?.map isBlank = some false) (visible : IsVisible text) :
    IsVisible (spaced words ++ text) := by
  cases words with
  | nil => exact visible
  | cons word words =>
    rcases Option.map_eq_some_iff.mp (plain word List.mem_cons_self) with ⟨first, head, isVisible⟩
    have wordVisible : IsVisible word := ⟨first, head, isVisible⟩
    rw [spaced_cons, List.append_assoc]
    exact wordVisible.append _

theorem firstWord_append {word : Text} (rest : Text) (absent : ' ' ∉ word) :
    firstWord (word ++ ' ' :: rest) = word := by
  have plain : ∀ character ∈ word, (decide (character ≠ ' ')) = true := by
    intro character member
    rw [decide_eq_true_iff]
    rintro rfl
    exact absent member
  rw [firstWord, List.takeWhile_append_of_pos plain]
  simp

/-- A character of another kind ends the first characters of a kind, if nothing else does. -/
theorem takeWhile_append_cons {kind : Char → Bool} {stop : Char} (text rest : Text)
    (stops : kind stop = false) : (text ++ stop :: rest).takeWhile kind = text.takeWhile kind := by
  induction text with
  | nil => simp [stops]
  | cons character text ih => rw [List.cons_append, List.takeWhile_cons, List.takeWhile_cons, ih]

theorem firstWord_append_space (text rest : Text) :
    firstWord (text ++ ' ' :: rest) = firstWord text :=
  takeWhile_append_cons text rest (by decide)

/-! ### Joined texts -/

theorem prefix_join (separator text : Text) (others : List Text) :
    text <+: join separator (text :: others) := by
  cases others with
  | nil => exact List.prefix_refl _
  | cons next others =>
    rw [join_cons_cons]
    exact List.prefix_append _ _

theorem map_join (change : Char → Char) (separator : Text) (texts : List Text) :
    (join separator texts).map change =
      join (separator.map change) (texts.map (List.map change)) := by
  induction texts with
  | nil => rfl
  | cons text others ih =>
    cases others with
    | nil => rfl
    | cons next others =>
      rw [List.map_cons, List.map_cons, join_cons_cons, join_cons_cons, List.map_append,
        List.map_append, ih, List.map_cons]

theorem join_append_singleton {separator : Text} {texts : List Text} (last : Text)
    (nonempty : texts ≠ []) :
    join separator (texts ++ [last]) = join separator texts ++ (separator ++ last) := by
  induction texts with
  | nil => exact absurd rfl nonempty
  | cons text others ih =>
    cases others with
    | nil => exact join_cons_cons separator text last []
    | cons next others =>
      rw [List.cons_append, List.cons_append, join_cons_cons, join_cons_cons, ← List.cons_append,
        ih (List.cons_ne_nil _ _)]
      simp only [List.append_assoc]

theorem join_append (separator : Text) {texts others : List Text} (nonempty : texts ≠ [])
    (nonemptyOthers : others ≠ []) :
    join separator (texts ++ others) =
      join separator texts ++ (separator ++ join separator others) := by
  induction texts with
  | nil => exact absurd rfl nonempty
  | cons text texts ih =>
    cases texts with
    | nil =>
      cases others with
      | nil => exact absurd rfl nonemptyOthers
      | cons next others =>
        rw [List.singleton_append, join_cons_cons]
        simp [join]
    | cons next texts =>
      rw [List.cons_append, List.cons_append, join_cons_cons, join_cons_cons, ← List.cons_append,
        ih (List.cons_ne_nil _ _)]
      simp only [List.append_assoc]

theorem mem_of_mem_join {separator : Text} {texts : List Text} {character : Char}
    (member : character ∈ join separator texts) :
    character ∈ separator ∨ ∃ text ∈ texts, character ∈ text := by
  induction texts with
  | nil => contradiction
  | cons text others ih =>
    cases others with
    | nil => exact .inr ⟨text, List.mem_cons_self, member⟩
    | cons next others =>
      rw [join_cons_cons, List.mem_append, List.mem_append] at member
      rcases member with first | between | rest
      · exact .inr ⟨text, List.mem_cons_self, first⟩
      · exact .inl between
      · rcases ih rest with between | ⟨other, inOthers, found⟩
        · exact .inl between
        · exact .inr ⟨other, List.mem_cons_of_mem _ inOthers, found⟩

end JarAtlas.Text
