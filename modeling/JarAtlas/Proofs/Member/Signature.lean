import JarAtlas.Member.Signature
import JarAtlas.Proofs.Member.Modifiers
import JarAtlas.Proofs.Member.Parameters

/-!
# Member lines read back

A member line is read as what it is written from. A method line is modifiers, a head that gives the
return type and the name, and the parameters in parentheses with anything behind them; a field line
is modifiers, a type, a name and a semicolon.
-/

namespace JarAtlas.Member

theorem not_mem_of_mem_methodWords : ∀ word ∈ methodModifiers ++ passedMethodWords, ' ' ∉ word := by
  decide

theorem not_mem_of_mem_fieldWords : ∀ word ∈ fieldModifiers ++ [], ' ' ∉ word := by
  decide

theorem isVisible_of_mem_methodWords : ∀ word ∈ methodModifiers ++ passedMethodWords,
    word.head?.map Text.isBlank = some false := by
  decide

theorem isVisible_of_mem_fieldModifiers : ∀ word ∈ fieldModifiers,
    word.head?.map Text.isBlank = some false := by
  decide

theorem drawnFrom_of_parseMethod {line : Text} {signature : MethodSummary}
    (parsed : parseMethod line = some signature) :
    Text.DrawnFrom methodModifiers signature.modifiers := by
  have drawn := drawnFrom_cutModifiers methodModifiers passedMethodWords (Text.trim line)
  simp only [parseMethod, Option.bind_eq_bind, Option.bind_eq_some_iff, Option.pure_def,
    Option.some.injEq] at parsed
  rcases parsed with ⟨_, -, _, -, _, -, rfl⟩
  exact drawn

theorem drawnFrom_of_parseField {line : Text} {field : FieldSummary}
    (parsed : parseField line = some field) : Text.DrawnFrom fieldModifiers field.modifiers := by
  have drawn := drawnFrom_cutModifiers fieldModifiers [] (Text.trim (Text.trim line).dropLast)
  simp only [parseField] at parsed
  split at parsed
  · contradiction
  · split at parsed
    · contradiction
    · split_ifs at parsed
      cases parsed
      exact drawn

/-- What stands in front of the parentheses of a method line, apart from modifiers. -/
structure IsMethodHead (head returnType name : Text) : Prop where
  read : methodHead? head = some (returnType, name)
  trimmed : Text.trim head = head
  uncut : '(' ∉ head
  foreign : ∀ rest, Text.firstWord (head ++ '(' :: rest) ∉ methodModifiers ++ passedMethodWords

/-- What may stand in front of the parentheses, whether or not it gives a name. -/
structure IsHeadText (head : Text) : Prop where
  nonempty : head ≠ []
  trimmed : Text.trim head = head
  uncut : '(' ∉ head
  foreign : ∀ rest, Text.firstWord (head ++ '(' :: rest) ∉ methodModifiers ++ passedMethodWords

/-- A method line: modifiers, a head, parameters, and what follows them. -/
def methodLine (words : List Text) (head : Text) (parameters : List Text) (tail : Text) : Text :=
  Text.spaced words ++ (head ++ '(' :: (Text.join ", " parameters ++ ')' :: tail))

theorem IsMethodHead.isHeadText {head returnType name : Text}
    (isHead : IsMethodHead head returnType name) : IsHeadText head where
  nonempty := by
    rintro rfl
    have read := isHead.read
    simp [methodHead?] at read
  trimmed := isHead.trimmed
  uncut := isHead.uncut
  foreign := isHead.foreign

section Line

variable {words parameters : List Text} {head : Text} (tail : Text)
  (known : ∀ word ∈ words, word ∈ methodModifiers ++ passedMethodWords)
  (nonempty : ∀ parameter ∈ parameters, parameter ≠ [])
  (trimmed : ∀ parameter ∈ parameters, Text.trim parameter = parameter)
  (closed : ∀ parameter ∈ parameters, closesAround (· == ',') 0 parameter = true)
  (uncut : ∀ parameter ∈ parameters, ')' ∉ parameter)

include known nonempty trimmed closed uncut

/-- A method line is read if its head is, with the modifiers and the parameters it is written from. -/
theorem parseMethod_eq_map (isHead : IsHeadText head) :
    parseMethod (methodLine words head parameters tail) =
      (methodHead? head).map fun (returnType, name) =>
        { name
          returnType
          modifiers := firstOccurrences (words.filter methodModifiers.contains)
          parameters } := by
  have starts : Text.IsVisible (methodLine words head parameters tail) :=
    Text.isVisible_spaced (fun word member => isVisible_of_mem_methodWords word (known word member))
      ((Text.isVisible_of_trim isHead.trimmed isHead.nonempty).append _)
  have trimmedLine : Text.trim (methodLine words head parameters tail) =
      Text.spaced words ++
        (head ++ '(' :: (Text.join ", " parameters ++ ')' :: Text.trimEnd tail)) := by
    rw [Text.trim, Text.trimStart_eq_self starts.head?]
    have split : methodLine words head parameters tail =
        (Text.spaced words ++ (head ++ '(' :: Text.join ", " parameters)) ++ ')' :: tail := by
      simp [methodLine]
    rw [split, Text.trimEnd_append_cons _ _ (by decide)]
    simp
  have uncutList : ')' ∉ Text.join ", " parameters := by
    intro member
    rcases Text.mem_of_mem_join member with between | ⟨parameter, isParameter, found⟩
    · exact absurd between (by decide)
    · exact uncut parameter isParameter found
  unfold parseMethod
  rw [trimmedLine, cutModifiers_spaced not_mem_of_mem_methodWords known (isHead.foreign _)]
  simp only [Text.cutFirst_append _ isHead.uncut, Text.cutFirst_append _ uncutList, isHead.trimmed,
    splitParameters_join nonempty trimmed closed, Option.bind_eq_bind, Option.bind_some,
    Option.pure_def]
  cases methodHead? head <;> rfl

/-- A method line is read as what it is written from. -/
theorem parseMethod_methodLine {returnType name : Text}
    (isHead : IsMethodHead head returnType name) :
    parseMethod (methodLine words head parameters tail) =
      some
        { name
          returnType
          modifiers := firstOccurrences (words.filter methodModifiers.contains)
          parameters } := by
  rw [parseMethod_eq_map tail known nonempty trimmed closed uncut isHead.isHeadText, isHead.read]
  rfl

end Line

/-- A text does not end with a blank if a word ends it. -/
theorem getLast?_append_word {word : Text} (text : Text) (nonempty : word ≠ [])
    (unbroken : ∀ character ∈ word, Text.isBlank character = false) :
    ∀ character ∈ (text ++ ' ' :: word).getLast?, Text.isBlank character = false := by
  intro character last
  apply unbroken
  cases word with
  | nil => exact absurd rfl nonempty
  | cons first others =>
    rw [List.getLast?_append, List.getLast?_cons_cons, List.getLast?_cons, Option.some_or] at last
    apply List.mem_of_getLast?
    rw [List.getLast?_cons]
    exact last

theorem getLast?_append_name {name : Text} (text : Text)
    (isName : Declaration.isIdentifier name = true) :
    ∀ character ∈ (text ++ ' ' :: name).getLast?, Text.isBlank character = false :=
  getLast?_append_word text (Declaration.ne_nil_of_isIdentifier isName) fun _ member =>
    Declaration.isBlank_eq_false_of_isIdentifierPart
      (Declaration.isIdentifierPart_of_mem isName member)

/-- A type and a word may stand in front of the parentheses. -/
theorem isHeadText_of_type {type word : Text} (nonempty : type ≠ [])
    (trimmed : Text.trim type = type) (uncut : '(' ∉ type)
    (foreign : Text.firstWord type ∉ methodModifiers ++ passedMethodWords)
    (nonemptyWord : word ≠ []) (unbroken : ∀ character ∈ word, Text.isBlank character = false)
    (uncutWord : '(' ∉ word) : IsHeadText (type ++ ' ' :: word) where
  nonempty := by simp
  trimmed := by
    apply Text.trim_eq_self
    · exact ((Text.isVisible_of_trim trimmed nonempty).append _).head?
    · exact getLast?_append_word type nonemptyWord unbroken
  uncut := by simp [uncut, uncutWord]
  foreign := by
    intro rest
    rw [List.append_assoc, List.cons_append, Text.firstWord_append_space]
    exact foreign

/-- A return type and a name are a head. -/
theorem isMethodHead_of_type {type name : Text} (nonempty : type ≠ [])
    (trimmed : Text.trim type = type) (uncut : '(' ∉ type)
    (foreign : Text.firstWord type ∉ methodModifiers ++ passedMethodWords)
    (isName : Declaration.isIdentifier name = true) :
    IsMethodHead (type ++ ' ' :: name) type name := by
  have unbroken : ∀ character ∈ name, Text.isBlank character = false := fun _ member =>
    Declaration.isBlank_eq_false_of_isIdentifierPart
      (Declaration.isIdentifierPart_of_mem isName member)
  have isHead := isHeadText_of_type nonempty trimmed uncut foreign
    (Declaration.ne_nil_of_isIdentifier isName) unbroken
    (Declaration.not_mem_of_isIdentifier isName (by decide))
  refine ⟨?_, isHead.trimmed, isHead.uncut, isHead.foreign⟩
  have spaceless : ' ' ∉ name := Declaration.not_mem_of_isIdentifier isName (by decide)
  unfold methodHead?
  rw [if_neg (by simp), Text.cutLast_append _ spaceless]
  simp [trimmed, nonempty, isName]

/-- The qualified name of a class is the head of a constructor. -/
theorem isMethodHead_of_path {path : List Text} (nonempty : path ≠ [])
    (names : ∀ name ∈ path, Declaration.isIdentifier name = true) :
    IsMethodHead (Text.join "." path) "void" constructorName := by
  have visible : ∀ character ∈ Text.join "." path, Text.isBlank character = false :=
    fun _ member => Declaration.isBlank_eq_false_of_mem_join_path names member
  have begun := Declaration.join_path_ne_nil nonempty names
  refine ⟨?_, ?_, Declaration.not_mem_join_path names (by decide) (by decide), ?_⟩
  · have pieces : Text.pieces '.' (Text.join "." path) = path :=
      Text.pieces_join nonempty fun name member =>
        Declaration.not_mem_of_isIdentifier (names name member) (by decide)
    have whole : isQualifiedName (Text.join "." path) = true := by
      rw [isQualifiedName, pieces, List.all_eq_true]
      exact names
    have spaceless : ' ' ∉ Text.join "." path :=
      Declaration.not_mem_join_path names (by decide) (by decide)
    generalize Text.join "." path = head at begun whole spaceless ⊢
    unfold methodHead?
    rw [if_neg (by simpa using begun), Text.cutLast_eq_none spaceless]
    simp [whole, Text.trim, Text.trimStart, Text.trimEnd]
  · exact Text.trim_eq_self (fun character head => visible character (List.mem_of_head? head))
      fun character last => visible character (List.mem_of_getLast? last)
  · intro rest known
    have begins : Text.join "." path ++ ['('] <+: Text.join "." path ++ '(' :: rest :=
      ⟨rest, by simp⟩
    have word : Text.join "." path ++ ['('] <+:
        Text.firstWord (Text.join "." path ++ '(' :: rest) := by
      apply Text.prefix_takeWhile begins
      rw [List.all_eq_true]
      intro character member
      rw [decide_eq_true_iff]
      rintro rfl
      rcases List.mem_append.mp member with inPath | inParenthesis
      · exact Declaration.not_mem_join_path names (by decide) (by decide) inPath
      · exact absurd inParenthesis (by decide)
    have noParenthesis : ∀ word ∈ methodModifiers ++ passedMethodWords, '(' ∉ word := by decide
    exact noParenthesis _ known (word.subset (by simp))

/-! ### Fields -/

theorem isTypeStart_of_digit {character : Char} (digital : Text.isDigit character = true) :
    isTypeStart character = false := by
  have noUnderscore : character ≠ '_' := by
    rintro rfl
    exact absurd digital (by decide)
  have noDollar : character ≠ '$' := by
    rintro rfl
    exact absurd digital (by decide)
  simp [isTypeStart, Text.isLetter_eq_false_of_isDigit digital, noUnderscore, noDollar]

theorem cutModifiers_of_digit {first : Char} (rest : Text) (digital : Text.isDigit first = true) :
    cutModifiers fieldModifiers [] (first :: rest) = ([], first :: rest) := by
  have lettered : ∀ word ∈ fieldModifiers ++ [], word.head?.any Text.isDigit = false := by decide
  have foreign : Text.firstWord (first :: rest) ∉ fieldModifiers ++ [] := by
    intro known
    have notSpace : first ≠ ' ' := by
      rintro rfl
      exact absurd digital (by decide)
    have letter := lettered _ known
    rw [Text.firstWord, List.takeWhile_cons_of_pos (by simpa using notSpace), List.head?_cons,
      Option.any_some, digital] at letter
    contradiction
  rw [cutModifiers, leadingWords_of_firstWord foreign]
  rfl

/-- No field line begins with a digit, for a type does not. -/
theorem parseField_of_digit {first : Char} (others : Text) (digital : Text.isDigit first = true) :
    parseField (first :: others) = none := by
  have visible : Text.isBlank first = false := Text.isBlank_eq_false_of_isDigit digital
  simp only [parseField, Text.trim_cons others visible]
  split
  · rfl
  · rename_i accepted
    cases shape : Text.trimEnd others with
    | nil =>
      rw [shape] at accepted
      have notSemicolon : first ≠ ';' := by
        rintro rfl
        exact absurd digital (by decide)
      have noSemicolon : Text.endsWith ";" [first] = false := by
        simp [Text.endsWith, Text.beginsWith, Text.after?, notSemicolon.symm]
      rw [noSemicolon] at accepted
      exact absurd rfl accepted
    | cons second rest =>
      rw [List.dropLast_cons_cons, Text.trim_cons _ visible, cutModifiers_of_digit _ digital]
      dsimp only
      cases cut : Text.cutLast ' ' (first :: Text.trimEnd (second :: rest).dropLast) with
      | none => rfl
      | some parts =>
        rcases parts with ⟨type, name⟩
        have split := Text.eq_append_of_cutLast cut
        cases type with
        | nil => rfl
        | cons start type =>
          rw [List.cons_append, List.cons.injEq] at split
          dsimp only [Option.getD_some]
          rw [← split.1, Text.trim_cons _ visible]
          simp [isTypeStart_of_digit digital]

/-- A field line: modifiers, a type, a name and a semicolon. -/
def fieldLine (words : List Text) (type name : Text) : Text :=
  Text.spaced words ++ (type ++ ' ' :: (name ++ [';']))

/-- A type as a field line shows it. -/
structure IsFieldType (type : Text) : Prop where
  start : ∃ first ∈ type.head?, isTypeStart first = true
  trimmed : Text.trim type = type
  plain : type.any isForeignToFields = false

theorem isForeignToFields_of_mem_spaced {words : List Text} {character : Char}
    (known : ∀ word ∈ words, word ∈ fieldModifiers) (member : character ∈ Text.spaced words) :
    isForeignToFields character = false := by
  have plain : ∀ word ∈ fieldModifiers, (word ++ [' ']).any isForeignToFields = false := by decide
  rcases List.mem_flatMap.mp member with ⟨word, isWord, inWord⟩
  have foreign := List.any_eq_false.mp (plain word (known word isWord)) character inWord
  exact Bool.eq_false_iff.mpr foreign

theorem isForeignToFields_of_mem_name {name : Text} {character : Char}
    (isName : Declaration.isIdentifier name = true) (member : character ∈ name) :
    isForeignToFields character = false := by
  rw [Bool.eq_false_iff]
  intro foreign
  have punctuation : (['(', ')', '\x7b', '\x7d', '=', '#'] : List Char).any
      Declaration.isIdentifierPart = false := by decide
  exact Declaration.not_mem_of_isIdentifier isName
    (Bool.eq_false_iff.mpr (List.any_eq_false.mp punctuation character
      (by simpa [isForeignToFields] using foreign))) member

/-- A field line holds nothing that a field line may not hold. -/
theorem any_isForeignToFields_fieldLine {words : List Text} {type name : Text}
    (known : ∀ word ∈ words, word ∈ fieldModifiers) (isType : IsFieldType type)
    (isName : Declaration.isIdentifier name = true) :
    (fieldLine words type name).any isForeignToFields = false := by
  rw [List.any_eq_false]
  intro character member
  rw [Bool.not_eq_true]
  simp only [fieldLine, List.mem_append, List.mem_cons, List.not_mem_nil, or_false] at member
  rcases member with inWords | inType | rfl | inName | rfl
  · exact isForeignToFields_of_mem_spaced known inWords
  · exact Bool.eq_false_iff.mpr (List.any_eq_false.mp isType.plain character inType)
  · decide
  · exact isForeignToFields_of_mem_name isName inName
  · decide

theorem not_mem_fieldLine {words : List Text} {type name : Text} {character : Char}
    (known : ∀ word ∈ words, word ∈ fieldModifiers) (isType : IsFieldType type)
    (isName : Declaration.isIdentifier name = true) (foreign : isForeignToFields character = true) :
    character ∉ fieldLine words type name := by
  intro member
  have plain := any_isForeignToFields_fieldLine known isType isName
  exact List.any_eq_false.mp plain character member foreign

theorem endsWith_fieldLine (words : List Text) (type name : Text) :
    Text.endsWith ";" (fieldLine words type name) = true := by
  rw [Text.endsWith_iff]
  exact ⟨Text.spaced words ++ (type ++ ' ' :: name), by simp [fieldLine]⟩

/-- A field line is read as what it is written from. -/
theorem parseField_fieldLine {words : List Text} {type name : Text}
    (known : ∀ word ∈ words, word ∈ fieldModifiers) (isType : IsFieldType type)
    (foreign : Text.firstWord type ∉ fieldModifiers)
    (isName : Declaration.isIdentifier name = true) :
    parseField (fieldLine words type name) =
      some { name, type, modifiers := firstOccurrences words } := by
  rcases isType.start with ⟨first, head, start⟩
  rcases List.head?_eq_some_iff.mp head with ⟨others, shape⟩
  have visible : Text.IsVisible type := Text.isVisible_of_trim isType.trimmed (by simp [shape])
  have starts : ∀ rest, ∀ character ∈ (Text.spaced words ++ (type ++ ' ' :: rest)).head?,
      Text.isBlank character = false := fun rest =>
    (Text.isVisible_spaced
      (fun word member => isVisible_of_mem_fieldModifiers word (known word member))
      (visible.append _)).head?
  have whole : fieldLine words type name = Text.spaced words ++ (type ++ ' ' :: name) ++ [';'] := by
    simp [fieldLine]
  have semicolon : ∀ character ∈ (fieldLine words type name).getLast?,
      Text.isBlank character = false := by
    rw [whole, List.getLast?_concat]
    rintro character ⟨⟩
    decide
  have trimmed : Text.trim (fieldLine words type name) = fieldLine words type name :=
    Text.trim_eq_self (starts _) semicolon
  have trimmedRest : Text.trim (Text.spaced words ++ (type ++ ' ' :: name)) =
      Text.spaced words ++ (type ++ ' ' :: name) := by
    apply Text.trim_eq_self (starts _)
    rw [← List.append_assoc]
    exact getLast?_append_name _ isName
  have unknown : Text.firstWord (type ++ ' ' :: name) ∉ fieldModifiers ++ [] := by
    rw [Text.firstWord_append_space, List.append_nil]
    exact foreign
  have spaceless : ' ' ∉ name := Declaration.not_mem_of_isIdentifier isName (by decide)
  have kept : words.filter fieldModifiers.contains = words := by
    rw [List.filter_eq_self]
    simpa using known
  unfold parseField
  simp only [trimmed, endsWith_fieldLine, any_isForeignToFields_fieldLine known isType isName,
    Bool.not_true, Bool.or_false, Bool.false_eq_true, if_false]
  rw [whole, List.dropLast_concat, trimmedRest,
    cutModifiers_spaced not_mem_of_mem_fieldWords (by simpa using known) unknown, kept]
  simp only [Text.cutLast_append type spaceless, Option.getD_some, isType.trimmed]
  rw [shape]
  simp [isName, start]

end JarAtlas.Member
