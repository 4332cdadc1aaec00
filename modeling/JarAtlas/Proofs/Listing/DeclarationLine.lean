import JarAtlas.Listing.Line
import JarAtlas.Proofs.Text.Cuts

/-!
# Lines that look like declarations

Whether a line looks like a declaration depends on its words as blanks of any kind set them apart:
modifiers are passed one after the other, and then the word of a kind has to come with something
behind it.
-/

namespace JarAtlas.Listing

open Text

/-- The words that a line may begin with if it looks like a declaration. -/
def declarationWords : List Text := declarationModifiers ++ ClassKind.all.map ClassKind.keyword

/-- The text up to its first blank. -/
def openingWord (text : Text) : Text := text.takeWhile fun character => !isBlank character

/-- No blank stands in the text. -/
def IsUnbroken (text : Text) : Prop := ∀ character ∈ text, isBlank character = false

instance : DecidablePred IsUnbroken := fun text => List.decidableBAll _ text

theorem isUnbroken_of_mem_declarationWords : ∀ word ∈ declarationWords, IsUnbroken word := by
  decide

theorem openingWord_append {word : Text} {rest : Text} (unbroken : IsUnbroken word)
    (ends : ∀ character ∈ rest.head?, isBlank character = true) :
    openingWord (word ++ rest) = word := by
  have plain : ∀ character ∈ word, (!isBlank character) = true := by
    simpa [IsUnbroken] using unbroken
  rw [openingWord, List.takeWhile_append_of_pos plain]
  cases rest with
  | nil => simp
  | cons character rest => simp [ends character rfl]

/-- A word with blanks behind it stands in front of a text exactly if it is the opening one. -/
theorem after?_bind_passBlanks {word : Text} (line : Text) (unbroken : IsUnbroken word) :
    (after? word line).bind passBlanks =
      if word = openingWord line then
        passBlanks (line.dropWhile fun character => !isBlank character)
      else none := by
  induction word generalizing line with
  | nil =>
    cases line with
    | nil => rfl
    | cons character line =>
      cases blank : isBlank character with
      | true => simp [after?, openingWord, blank]
      | false => simp [after?, openingWord, passBlanks, blank]
  | cons expected word ih =>
    cases line with
    | nil => rfl
    | cons character line =>
      by_cases same : expected = character
      · subst same
        have visible : isBlank expected = false := unbroken expected List.mem_cons_self
        have opening : openingWord (expected :: line) = expected :: openingWord line := by
          simp [openingWord, visible]
        rw [after?, if_pos rfl, ih line fun character member => unbroken character (.tail _ member),
          opening, List.dropWhile_cons_of_pos (by simp [visible])]
        simp only [List.cons.injEq, true_and]
      · have differs : expected :: word ≠ openingWord (character :: line) := by
          intro begins
          have starts := List.takeWhile_prefix (fun character => !isBlank character)
            (l := character :: line)
          rw [← openingWord, ← begins, List.cons_prefix_cons] at starts
          exact same starts.1
        rw [if_neg differs, after?, if_neg same]
        rfl

theorem passWord_eq (words : List Text) (line : Text)
    (unbroken : ∀ word ∈ words, IsUnbroken word) :
    passWord words line =
      if openingWord line ∈ words then
        passBlanks (line.dropWhile fun character => !isBlank character)
      else none := by
  unfold passWord
  induction words with
  | nil => rfl
  | cons word words ih =>
    rw [List.findSome?_cons, after?_bind_passBlanks line (unbroken word List.mem_cons_self),
      ih fun word member => unbroken word (List.mem_cons_of_mem _ member)]
    by_cases same : word = openingWord line
    · subst same
      rw [if_pos rfl, if_pos List.mem_cons_self]
      cases passBlanks (line.dropWhile fun character => !isBlank character) <;> simp
    · rw [if_neg same]
      simp [Ne.symm same]

theorem passWord_word {words : List Text} {word rest : Text}
    (unbroken : ∀ word ∈ words, IsUnbroken word) (known : word ∈ words)
    (visible : ∀ character ∈ rest.head?, isBlank character = false) :
    passWord words (word ++ ' ' :: rest) = some rest := by
  have plain : ∀ character ∈ word, (!isBlank character) = true := by
    simpa [IsUnbroken] using unbroken word known
  have blank : isBlank ' ' = true := by decide
  rw [passWord_eq words _ unbroken, openingWord_append (unbroken word known) (by simp [blank]),
    if_pos known, List.dropWhile_append_of_pos plain]
  cases rest with
  | nil => simp [passBlanks, blank]
  | cons character rest => simp [passBlanks, blank, visible character rfl]

/-- A line that begins with another word does not look like a declaration. -/
theorem isDeclaration_eq_false {line : Text} (foreign : openingWord line ∉ declarationWords) :
    isDeclaration line = false := by
  rw [declarationWords, List.mem_append, not_or] at foreign
  unfold isDeclaration
  rw [passWord_eq _ _ fun word member =>
    isUnbroken_of_mem_declarationWords word (List.mem_append_left _ member), if_neg foreign.1]
  dsimp only
  rw [passWord_eq _ _ fun word member =>
    isUnbroken_of_mem_declarationWords word (List.mem_append_right _ member), if_neg foreign.2]

/-- A modifier in front changes nothing. -/
theorem isDeclaration_modifier {word rest : Text} (known : word ∈ declarationModifiers)
    (visible : ∀ character ∈ rest.head?, isBlank character = false) :
    isDeclaration (word ++ ' ' :: rest) = isDeclaration rest := by
  rw [isDeclaration]
  rw [passWord_word (fun word member =>
    isUnbroken_of_mem_declarationWords word (List.mem_append_left _ member)) known visible]

theorem isDeclaration_spaced {words : List Text} {rest : Text}
    (known : ∀ word ∈ words, word ∈ declarationModifiers) (visible : IsVisible rest) :
    isDeclaration (spaced words ++ rest) = isDeclaration rest := by
  have plain : ∀ word ∈ declarationModifiers, word.head?.map isBlank = some false := by decide
  induction words with
  | nil => rfl
  | cons word words ih =>
    have others : ∀ word ∈ words, word ∈ declarationModifiers := fun word member =>
      known word (List.mem_cons_of_mem _ member)
    have behind : IsVisible (spaced words ++ rest) :=
      isVisible_spaced (fun word member => plain word (others word member)) visible
    rw [spaced_cons, List.append_assoc, List.cons_append,
      isDeclaration_modifier (known word List.mem_cons_self) behind.head?, ih others]

/-- The word of a kind with a name behind it makes a line look like a declaration. -/
theorem isDeclaration_keyword (kind : ClassKind) {rest : Text}
    (starts : ∃ character ∈ rest.head?, Declaration.isIdentifierStart character = true)
    (visible : ∀ character ∈ rest.head?, isBlank character = false) :
    isDeclaration (kind.keyword ++ ' ' :: rest) = true := by
  have blank : isBlank ' ' = true := by decide
  have member : kind.keyword ∈ ClassKind.all.map ClassKind.keyword := by
    cases kind <;> decide
  have unbroken := isUnbroken_of_mem_declarationWords kind.keyword (List.mem_append_right _ member)
  have noModifier : kind.keyword ∉ declarationModifiers := by
    cases kind <;> decide
  rcases starts with ⟨character, head, start⟩
  rcases List.head?_eq_some_iff.mp head with ⟨others, rfl⟩
  unfold isDeclaration
  rw [passWord_eq _ _ fun word member =>
    isUnbroken_of_mem_declarationWords word (List.mem_append_left _ member),
    openingWord_append unbroken (by simp [blank]), if_neg noModifier]
  dsimp only
  rw [passWord_word (fun word member =>
    isUnbroken_of_mem_declarationWords word (List.mem_append_right _ member)) member visible]
  exact start

end JarAtlas.Listing
