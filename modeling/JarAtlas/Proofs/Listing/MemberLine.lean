import JarAtlas.Proofs.Listing.Inert
import JarAtlas.Proofs.Member.Signature
import Mathlib.Data.List.TakeDrop

/-!
# Lines that list members

A member line with a descriptor behind it is told by its shape alone, with or without modifiers, as
long as it begins with no word that a declaration begins with.
-/

namespace JarAtlas.Listing

open Text

/-- What a member line may hold behind its modifiers. -/
structure IsMemberText (text : Text) : Prop where
  visible : IsVisible text
  undeclared : openingWord text ∉ declarationWords
  undescribed : ¬descriptorStart <+: text

theorem isUnbroken_of_mem_memberWords : ∀ word ∈ memberWords, IsUnbroken word := by decide

theorem isVisible_of_mem_memberWords : ∀ word ∈ memberWords,
    word.head?.map isBlank = some false := by decide

theorem mem_memberWords_of_mem_methodWords :
    ∀ word ∈ Member.methodModifiers ++ Member.passedMethodWords, word ∈ memberWords := by decide

theorem mem_memberWords_of_mem_fieldModifiers :
    ∀ word ∈ Member.fieldModifiers, word ∈ memberWords := by decide

theorem mem_declarationModifiers_of_mem_memberWords : ∀ word ∈ memberWords,
    word ∈ declarationWords → word ∈ declarationModifiers := by decide

namespace IsMemberText

variable {words : List Text} {text : Text}

theorem isVisible_spaced (isText : IsMemberText text)
    (known : ∀ word ∈ words, word ∈ memberWords) : IsVisible (spaced words ++ text) :=
  Text.isVisible_spaced (fun word member => isVisible_of_mem_memberWords word (known word member))
    isText.visible

/-- Modifiers of members make no declaration of the text behind them. -/
theorem isDeclaration_spaced (isText : IsMemberText text)
    (known : ∀ word ∈ words, word ∈ memberWords) :
    isDeclaration (spaced words ++ text) = false := by
  induction words with
  | nil => exact isDeclaration_eq_false isText.undeclared
  | cons word words ih =>
    have member := known word List.mem_cons_self
    have knownOthers : ∀ word ∈ words, word ∈ memberWords := fun word member =>
      known word (List.mem_cons_of_mem _ member)
    rw [spaced_cons, List.append_assoc, List.cons_append]
    by_cases modifier : word ∈ declarationModifiers
    · rw [isDeclaration_modifier modifier (isText.isVisible_spaced knownOthers).head?]
      exact ih knownOthers
    · apply isDeclaration_eq_false
      rw [openingWord_append (isUnbroken_of_mem_memberWords word member) (by simp; decide)]
      exact fun declares =>
        modifier (mem_declarationModifiers_of_mem_memberWords word member declares)

/-- A member line is no descriptor. -/
theorem beginsWith_descriptorStart (isText : IsMemberText text)
    (known : ∀ word ∈ words, word ∈ memberWords) :
    beginsWith descriptorStart (spaced words ++ text) = false := by
  rw [Bool.eq_false_iff]
  intro begins
  rw [beginsWith_iff] at begins
  cases words with
  | nil => exact isText.undescribed begins
  | cons word words =>
    have member := known word List.mem_cons_self
    have unspaced : ∀ word ∈ memberWords, ' ' ∉ word ∧ ¬descriptorStart <+: word := by decide
    have starts : descriptorStart <+: firstWord (spaced (word :: words) ++ text) :=
      prefix_takeWhile begins (by decide)
    rw [spaced_cons, List.append_assoc, List.cons_append,
      firstWord_append _ (unspaced word member).1] at starts
    exact (unspaced word member).2 starts

end IsMemberText

/-- The next line describes a member. -/
def IsDescriptor (next : Option Text) : Prop := next.any (beginsWith descriptorStart) = true

/-- A method line is taken for one. -/
theorem shapeOf_methodLine {insideMethod : Bool} {words parameters : List Text} {head tail : Text}
    {next : Option Text}
    (isText : IsMemberText (head ++ '(' :: (join ", " parameters ++ ')' :: tail)))
    (known : ∀ word ∈ words, word ∈ memberWords) (uncut : '(' ∉ head)
    (ends : endsWith ";" tail = true) (described : IsDescriptor next) :
    shapeOf insideMethod (Member.methodLine words head parameters tail) next = .method := by
  have undeclared := isText.isDeclaration_spaced known
  have uncutWords : '(' ∉ spaced words := by
    intro member
    rcases List.mem_flatMap.mp member with ⟨word, isWord, inWord⟩
    have plain : ∀ word ∈ memberWords, '(' ∉ word ++ [' '] := by decide
    exact plain word (known word isWord) inWord
  have cut : cutFirst '(' (Member.methodLine words head parameters tail) =
      some (spaced words ++ head, join ", " parameters ++ ')' :: tail) := by
    rw [Member.methodLine, ← List.append_assoc]
    exact cutFirst_append _ (by simp [uncutWords, uncut])
  have semicolon : endsWith ";" (Member.methodLine words head parameters tail) = true := by
    rw [endsWith_iff] at ends ⊢
    have suffix : tail <:+ Member.methodLine words head parameters tail :=
      ⟨spaced words ++ (head ++ '(' :: (join ", " parameters ++ [')'])), by
        simp [Member.methodLine]⟩
    exact ends.trans suffix
  have lists : listsMethod (Member.methodLine words head parameters tail) next = true := by
    unfold listsMethod
    rw [cut, described, semicolon]
    simp
  have notBrace : (Member.methodLine words head parameters tail == ['\x7b']) = false := by
    rw [beq_eq_false_iff_ne]
    intro same
    rw [same] at cut
    contradiction
  unfold shapeOf
  rw [notBrace, lists]
  change (if isDeclaration (spaced words ++ _) = true then _ else _) = _
  rw [undeclared]
  rfl

/-- A line that opens a switch holds a brace. -/
theorem mem_of_opensSwitch {line : Text} (opens : opensSwitch line = true) : '\x7b' ∈ line := by
  simp only [opensSwitch, List.span_eq_takeWhile_dropWhile, Bool.and_eq_true, Option.any_eq_true,
    Option.bind_eq_bind, Option.bind_eq_some_iff, beq_iff_eq] at opens
  rcases opens with ⟨-, behind, ⟨instruction, colon, name, blanks, keyword⟩, brace⟩
  have inBehind : '\x7b' ∈ behind := (List.dropWhile_sublist _).subset (List.mem_of_head? brace)
  have inName : '\x7b' ∈ name := by
    rcases Option.or_eq_some_iff.mp keyword with table | ⟨-, lookup⟩
    · rw [eq_append_of_after? table]
      exact List.mem_append_right _ inBehind
    · rw [eq_append_of_after? lookup]
      exact List.mem_append_right _ inBehind
  have inInstruction : '\x7b' ∈ instruction := by
    cases instruction with
    | nil => contradiction
    | cons blank rest =>
      simp only [passBlanks, Option.ite_none_right_eq_some, Option.some.injEq] at blanks
      rw [← blanks.2] at inName
      exact List.mem_cons_of_mem _ ((List.dropWhile_sublist _).subset inName)
  have inRest : '\x7b' ∈ line.dropWhile isDigit := by
    rw [eq_append_of_after? colon]
    exact List.mem_append_right _ inInstruction
  exact (List.dropWhile_sublist _).subset inRest

/-- A field line is taken for one. -/
theorem shapeOf_fieldLine {insideMethod : Bool} {words : List Text} {type name : Text}
    {next : Option Text} (isText : IsMemberText (type ++ ' ' :: (name ++ [';'])))
    (known : ∀ word ∈ words, word ∈ Member.fieldModifiers) (isType : Member.IsFieldType type)
    (isName : Declaration.isIdentifier name = true) (described : IsDescriptor next) :
    shapeOf insideMethod (Member.fieldLine words type name) next = .field := by
  have knownMember : ∀ word ∈ words, word ∈ memberWords := fun word member =>
    mem_memberWords_of_mem_fieldModifiers word (known word member)
  have undeclared := isText.isDeclaration_spaced knownMember
  have absent : ∀ character, Member.isForeignToFields character = true →
      character ∉ Member.fieldLine words type name := fun _ =>
    Member.not_mem_fieldLine known isType isName
  have semicolon := Member.endsWith_fieldLine words type name
  have lists : listsField (Member.fieldLine words type name) next = true := by
    unfold listsField
    rw [described, semicolon]
    simp [absent '(' (by decide)]
  have noMethod : listsMethod (Member.fieldLine words type name) next = false := by
    unfold listsMethod
    rw [cutFirst_eq_none_iff.mpr (absent '(' (by decide))]
  have differs : ∀ start : Text, '\x7b' ∈ start ∨ '=' ∈ start →
      beginsWith start (Member.fieldLine words type name) = false := by
    intro start telling
    rw [Bool.eq_false_iff]
    intro begins
    have subset := (beginsWith_iff.mp begins).subset
    rcases telling with brace | equals
    · exact absent '\x7b' (by decide) (subset brace)
    · exact absent '=' (by decide) (subset equals)
  have notBrace : (Member.fieldLine words type name == ['\x7b']) = false := by
    rw [beq_eq_false_iff_ne]
    intro same
    exact absent '\x7b' (by decide) (same ▸ List.mem_singleton_self _)
  have notHeader : (Member.fieldLine words type name == tableHeader) = false := by
    rw [beq_eq_false_iff_ne]
    intro same
    rw [same] at semicolon
    exact absurd semicolon (by decide)
  have noSwitch : opensSwitch (Member.fieldLine words type name) = false := by
    rw [Bool.eq_false_iff]
    intro opens
    exact absent '\x7b' (by decide) (mem_of_opensSwitch opens)
  unfold shapeOf
  rw [notBrace, noMethod, notHeader, differs "stack=" (by decide), noSwitch,
    differs "static \x7b" (by decide), lists, Bool.and_false]
  change (if isDeclaration (spaced words ++ _) = true then _ else _) = _
  rw [undeclared]
  rfl

end JarAtlas.Listing
