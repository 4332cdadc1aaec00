import JarAtlas.Text.Blank
import Mathlib.Data.List.TakeWhile
import Mathlib.Tactic.Common

/-!
# Trimmed texts and lines

A text is trimmed exactly when it neither begins nor ends with white space, and nothing is left of a
text exactly when it is all white space. The lines of a text hold no characters but its own.
-/

namespace JarAtlas.Text

theorem trimStart_eq_nil_iff {text : Text} : trimStart text = [] ↔ ∀ character ∈ text,
    isBlank character = true :=
  List.dropWhile_eq_nil_iff

theorem trimEnd_eq_nil_iff {text : Text} : trimEnd text = [] ↔ ∀ character ∈ text,
    isBlank character = true := by
  rw [trimEnd, List.reverse_eq_nil_iff, List.dropWhile_eq_nil_iff]
  simp

/-- Nothing is left of white space, and of nothing else. -/
theorem trim_eq_nil_iff {text : Text} : trim text = [] ↔ ∀ character ∈ text,
    isBlank character = true := by
  rw [trim, trimEnd_eq_nil_iff]
  constructor
  · intro blank
    have nothing : trimStart text = [] := by
      cases shape : trimStart text with
      | nil => rfl
      | cons first others =>
        have stops := List.head?_dropWhile_not isBlank text
        rw [← trimStart, shape] at stops
        have isBlankFirst := blank first (shape ▸ List.mem_cons_self)
        simp only [List.head?_cons] at stops
        rw [isBlankFirst] at stops
        contradiction
    exact trimStart_eq_nil_iff.mp nothing
  · intro blank
    rw [trimStart_eq_nil_iff.mpr blank]
    simp

theorem trimStart_eq_self {text : Text}
    (starts : ∀ character ∈ text.head?, isBlank character = false) : trimStart text = text := by
  cases text with
  | nil => rfl
  | cons first others => simp [trimStart, starts first rfl]

theorem trimEnd_eq_self {text : Text}
    (ends : ∀ character ∈ text.getLast?, isBlank character = false) : trimEnd text = text := by
  rw [trimEnd]
  have reversed : trimStart text.reverse = text.reverse := by
    apply trimStart_eq_self
    rw [List.head?_reverse]
    exact ends
  rw [trimStart] at reversed
  rw [reversed, List.reverse_reverse]

/-- A text without white space at either end is trimmed. -/
theorem trim_eq_self {text : Text}
    (starts : ∀ character ∈ text.head?, isBlank character = false)
    (ends : ∀ character ∈ text.getLast?, isBlank character = false) : trim text = text := by
  rw [trim, trimStart_eq_self starts, trimEnd_eq_self ends]

theorem head?_trimStart (text : Text) :
    ∀ character ∈ (trimStart text).head?, isBlank character = false := by
  intro character head
  have stops := List.head?_dropWhile_not isBlank text
  rw [← trimStart, Option.mem_def.mp head] at stops
  exact stops

theorem getLast?_trimEnd (text : Text) :
    ∀ character ∈ (trimEnd text).getLast?, isBlank character = false := by
  intro character last
  rw [trimEnd, List.getLast?_reverse] at last
  exact head?_trimStart text.reverse character last

theorem trimEnd_prefix (text : Text) : trimEnd text <+: text := by
  rw [trimEnd]
  have suffix := List.dropWhile_suffix isBlank (l := text.reverse)
  simpa using List.reverse_prefix.mpr suffix

theorem head?_trim (text : Text) : ∀ character ∈ (trim text).head?, isBlank character = false := by
  intro character head
  rcases trimEnd_prefix (trimStart text) with ⟨rest, split⟩
  apply head?_trimStart text character
  rw [← split]
  cases shape : trim text with
  | nil => simp [shape] at head
  | cons first others =>
    rw [shape] at head
    rw [← trim, shape]
    simpa using head

theorem trim_trim (text : Text) : trim (trim text) = trim text :=
  trim_eq_self (head?_trim text) (getLast?_trimEnd (trimStart text))

/-- Trimming leaves out nothing but white space at both ends. -/
theorem exists_eq_trim (text : Text) : ∃ front behind : Text,
    (∀ character ∈ front, isBlank character = true) ∧
      (∀ character ∈ behind, isBlank character = true) ∧
      text = front ++ (trim text ++ behind) := by
  refine ⟨text.takeWhile isBlank, ((trimStart text).reverse.takeWhile isBlank).reverse,
    fun _ member => List.mem_takeWhile_imp member, ?_, ?_⟩
  · intro character member
    exact List.mem_takeWhile_imp (List.mem_reverse.mp member)
  · have ends : trim text ++ ((trimStart text).reverse.takeWhile isBlank).reverse =
        trimStart text := by
      rw [trim, trimEnd, ← List.reverse_append, List.takeWhile_append_dropWhile,
        List.reverse_reverse]
    rw [ends, trimStart, List.takeWhile_append_dropWhile]

/-- White space around a text is trimmed with what the text has of its own. -/
theorem trim_append_of_blank {front text behind : Text}
    (blankFront : ∀ character ∈ front, isBlank character = true)
    (blankBehind : ∀ character ∈ behind, isBlank character = true) :
    trim (front ++ (text ++ behind)) = trim text := by
  have noFront : trimStart (front ++ (text ++ behind)) = trimStart (text ++ behind) :=
    List.dropWhile_append_of_pos blankFront
  have noBehind : ∀ text, trimEnd (text ++ behind) = trimEnd text := by
    intro text
    rw [trimEnd, List.reverse_append, List.dropWhile_append_of_pos (by simpa using blankBehind),
      trimEnd]
  by_cases blank : ∀ character ∈ text, isBlank character = true
  · rw [trim_eq_nil_iff.mpr blank, trim_eq_nil_iff]
    intro character member
    simp only [List.mem_append] at member
    rcases member with inFront | inText | inBehind
    · exact blankFront character inFront
    · exact blank character inText
    · exact blankBehind character inBehind
  · have visible : (text.dropWhile isBlank).isEmpty = false := by
      rw [List.isEmpty_eq_false_iff]
      exact fun nothing => blank (List.dropWhile_eq_nil_iff.mp nothing)
    have starts : trimStart (text ++ behind) = trimStart text ++ behind := by
      rw [trimStart, List.dropWhile_append, if_neg (by simp [visible]), trimStart]
    rw [trim, noFront, starts, noBehind, trim]

theorem head?_eq_false_of_trim {text : Text} (trimmed : trim text = text) :
    ∀ character ∈ text.head?, isBlank character = false := trimmed ▸ head?_trim text

/-- White space is trimmed only behind the last visible character. -/
theorem trimEnd_append_cons {character : Char} (before behind : Text)
    (visible : isBlank character = false) :
    trimEnd (before ++ character :: behind) = before ++ character :: trimEnd behind := by
  simp only [trimEnd, List.reverse_append, List.reverse_cons, List.append_assoc,
    List.singleton_append, List.dropWhile_append]
  split
  · rename_i blank
    rw [List.isEmpty_iff] at blank
    simp [blank, visible]
  · simp

/-- A visible first character stays where it is. -/
theorem trim_cons {first : Char} (rest : Text) (visible : isBlank first = false) :
    trim (first :: rest) = first :: trimEnd rest := by
  have starts : trimStart (first :: rest) = first :: rest := by
    apply trimStart_eq_self
    rintro character ⟨⟩
    exact visible
  rw [trim, starts]
  exact trimEnd_append_cons [] rest visible

/-- The text begins with something other than white space. -/
def IsVisible (text : Text) : Prop := ∃ first ∈ text.head?, isBlank first = false

theorem IsVisible.append {text : Text} (visible : IsVisible text) (rest : Text) :
    IsVisible (text ++ rest) := by
  rcases visible with ⟨first, head, isVisible⟩
  rcases List.head?_eq_some_iff.mp head with ⟨others, rfl⟩
  exact ⟨first, rfl, isVisible⟩

theorem IsVisible.head? {text : Text} (visible : IsVisible text) :
    ∀ character ∈ text.head?, isBlank character = false := by
  rcases visible with ⟨first, head, isVisible⟩
  intro character begins
  rw [Option.mem_def.mp head, Option.mem_def, Option.some.injEq] at begins
  exact begins ▸ isVisible

theorem isVisible_of_trim {text : Text} (trimmed : trim text = text) (nonempty : text ≠ []) :
    IsVisible text := by
  cases shape : text with
  | nil => exact absurd shape nonempty
  | cons first others =>
    have visible := head?_eq_false_of_trim trimmed
    rw [shape] at visible
    exact ⟨first, rfl, visible first rfl⟩

/-- The lines of a text hold only characters of the text. -/
theorem mem_of_mem_lines {text line : Text} {character : Char} (isLine : line ∈ lines text)
    (member : character ∈ line) : character ∈ text := by
  unfold lines at isLine
  induction text generalizing line with
  | nil => simp at isLine
  | cons first others ih =>
    rw [List.foldr_cons] at isLine
    generalize List.foldr LinesBehind.add ⟨[], false⟩ others = behind at isLine ih
    unfold LinesBehind.add at isLine
    split_ifs at isLine
    · exact List.mem_cons_of_mem first (ih isLine member)
    · rcases List.mem_cons.mp isLine with rfl | isLine
      · simp at member
      · exact List.mem_cons_of_mem first (ih isLine member)
    · split at isLine
      · rename_i begun rest shape
        rcases List.mem_cons.mp isLine with rfl | isLine
        · rcases List.mem_cons.mp member with rfl | member
          · exact List.mem_cons_self
          · exact List.mem_cons_of_mem first (ih (shape ▸ List.mem_cons_self) member)
        · exact List.mem_cons_of_mem first (ih (shape ▸ List.mem_cons_of_mem _ isLine) member)
      · rw [List.mem_singleton.mp isLine] at member
        rw [List.mem_singleton.mp member]
        exact List.mem_cons_self

end JarAtlas.Text
