import JarAtlas.Proofs.Listing.MemberLine
import JarAtlas.Proofs.Listing.SwitchBlock
import JarAtlas.Proofs.Listing.VariableTable

/-!
# Members as they are printed

A field or a method with everything that is free in its lines: how its modifiers are mixed with
words that are not reported, the attributes under it, the code of a method and the variable table
that names its parameters. A run over the lines of a member adds the member to the class, whatever
is being read in front of them.
-/

namespace JarAtlas.Listing

open Text

/-- The words that no type on a member line begins with. -/
def reservedWords : List Text := declarationWords ++ memberWords

/-- A type as a member line shows it. -/
structure IsMemberType (type : Text) : Prop where
  nonempty : type ≠ []
  trimmed : trim type = type
  unreserved : openingWord type ∉ reservedWords
  undescribed : ¬descriptorStart <+: type

theorem IsMemberType.isMemberText {type : Text} (isType : IsMemberType type) (rest : Text) :
    IsMemberText (type ++ ' ' :: rest) where
  visible := (isVisible_of_trim isType.trimmed isType.nonempty).append _
  undeclared := by
    rw [openingWord, takeWhile_append_cons _ _ (by decide), ← openingWord]
    exact fun known => isType.unreserved (List.mem_append_left _ known)
  undescribed := by
    intro begins
    have word := prefix_takeWhile begins
      (show descriptorStart.all (fun character => decide (character ≠ ' ')) = true by decide)
    rw [takeWhile_append_cons _ _ (by decide)] at word
    exact isType.undescribed (word.trans (List.takeWhile_prefix _))

theorem IsMemberType.wordless {type : Text} (isType : IsMemberType type) :
    firstWord type ∉ memberWords := by
  intro known
  have split : firstWord type ++ type.dropWhile (fun character => character ≠ ' ') = type :=
    List.takeWhile_append_dropWhile
  have same : openingWord type = firstWord type := by
    conv_lhs => rw [← split]
    refine openingWord_append (isUnbroken_of_mem_memberWords _ known) ?_
    intro character head
    have stops := List.head?_dropWhile_not (fun character => decide (character ≠ ' ')) type
    rw [Option.mem_def.mp head] at stops
    have space : character = ' ' := by simpa using stops
    rw [space]
    decide
  exact isType.unreserved (same ▸ List.mem_append_right _ known)

/-! ### Fields -/

/-- A field as it is printed. -/
structure PrintedField where
  modifiers : List Text
  type : Text
  name : Text
  descriptor : Text
  attributes : List Text
  known : ∀ word ∈ modifiers, word ∈ Member.fieldModifiers
  distinct : modifiers.Nodup
  isType : IsMemberType type
  isFieldType : Member.IsFieldType type
  isName : Declaration.isIdentifier name = true
  describes : beginsWith descriptorStart descriptor = true
  inert : ∀ line ∈ attributes, isInert line = true

namespace PrintedField

/-- The field that is printed. -/
def summary (field : PrintedField) : FieldSummary :=
  { name := field.name, type := field.type, modifiers := field.modifiers }

/-- The lines of a field. -/
def lines (field : PrintedField) : List Text :=
  Member.fieldLine field.modifiers field.type field.name :: field.descriptor :: field.attributes

end PrintedField

/-! ### Methods -/

/-- What stands in front of the parentheses of a method line: a return type and a name, or the
qualified name of the class for a constructor. -/
inductive MethodHeading
  | method (type name : Text) (isType : IsMemberType type) (uncut : '(' ∉ type)
      (isName : Declaration.isIdentifier name = true)
  | constructor (path : List Text) (nonempty : path ≠ [])
      (names : ∀ name ∈ path, Declaration.isIdentifier name = true)

namespace MethodHeading

/-- The text of a heading. -/
def text : MethodHeading → Text
  | method type name _ _ _ => type ++ ' ' :: name
  | constructor path _ _ => join "." path

/-- The return type that a heading stands for. -/
def returnType : MethodHeading → Text
  | method type _ _ _ _ => type
  | constructor _ _ _ => "void"

/-- The name that a heading stands for. -/
def name : MethodHeading → Text
  | method _ name _ _ _ => name
  | constructor _ _ _ => constructorName

theorem isMethodHead : (heading : MethodHeading) →
    Member.IsMethodHead heading.text heading.returnType heading.name
  | method type name isType uncut isName => by
    refine Member.isMethodHead_of_type isType.nonempty isType.trimmed uncut ?_ isName
    intro known
    apply isType.wordless
    exact mem_memberWords_of_mem_methodWords _ known
  | constructor path nonempty names => Member.isMethodHead_of_path nonempty names

theorem isMemberText (heading : MethodHeading) (rest : Text) :
    IsMemberText (heading.text ++ '(' :: rest) := by
  cases heading with
  | method type name isType uncut isName =>
    have text := isType.isMemberText (name ++ '(' :: rest)
    rw [← List.cons_append, ← List.append_assoc] at text
    exact text
  | constructor path nonempty names =>
    have isHead := Member.isMethodHead_of_path nonempty names
    refine ⟨(isVisible_of_trim isHead.trimmed isHead.isHeadText.nonempty).append _, ?_, ?_⟩
    · intro declares
      have begins : join "." path ++ ['('] <+: join "." path ++ '(' :: rest := ⟨rest, by simp⟩
      have word : join "." path ++ ['('] <+: openingWord (join "." path ++ '(' :: rest) := by
        apply prefix_takeWhile begins
        rw [List.all_eq_true]
        intro character member
        rcases List.mem_append.mp member with inPath | inParenthesis
        · rw [Declaration.isBlank_eq_false_of_mem_join_path names inPath]
          rfl
        · rw [List.mem_singleton.mp inParenthesis]
          decide
      have noParenthesis : ∀ word ∈ declarationWords, '(' ∉ word := by decide
      exact noParenthesis _ declares (word.subset (by simp))
    · intro begins
      have word := prefix_takeWhile begins
        (show descriptorStart.all (fun character => decide (character ≠ '(')) = true by decide)
      rw [text, takeWhile_append_cons _ _ (by decide)] at word
      have inPath := (word.trans (List.takeWhile_prefix _)).subset
        (show ':' ∈ descriptorStart by decide)
      exact Declaration.not_mem_join_path names (by decide) (by decide) inPath

end MethodHeading

/-- The type of a parameter as a method line shows it: commas and blanks stand only inside angle
brackets. -/
structure IsParameterType (type : Text) : Prop where
  nonempty : type ≠ []
  uncut : ')' ∉ type
  commas : Member.closesAround (· == ',') 0 type = true
  blanks : Member.closesAround isBlank 0 type = true

/-- The line that gives the sizes of code. -/
def sizesLine (stack locals arguments : Nat) : Text :=
  ("stack=" : Text) ++ (ofNat stack ++ ((", locals=" : Text) ++ (ofNat locals ++
    ((", args_size=" : Text) ++ ofNat arguments))))

theorem argumentSizeFrom_cons {character : Char} (insideWord : Bool) (rest : Text)
    (differs : character ≠ 'a') :
    argumentSizeFrom insideWord (character :: rest) = argumentSizeFrom (isWord character) rest := by
  have refused : after? "args_size=" (character :: rest) = none := by
    rw [show ("args_size=" : Text) = 'a' :: ("rgs_size=" : Text) from rfl, after?,
      if_neg (Ne.symm differs)]
  rw [argumentSizeFrom, refused]
  simp

/-- Digits hold no argument size. -/
theorem argumentSizeFrom_ofNat (insideWord : Bool) (number : Nat) (rest : Text) :
    argumentSizeFrom insideWord (ofNat number ++ rest) = argumentSizeFrom true rest := by
  have digits : ∀ character ∈ ofNat number, character ≠ 'a' ∧ isWord character = true :=
    fun _ => of_mem_ofNat (fun character => character ≠ 'a' ∧ isWord character = true) (by decide)
  have nonempty := ofNat_ne_nil number
  generalize ofNat number = word at digits nonempty
  induction word generalizing insideWord with
  | nil => exact absurd rfl nonempty
  | cons digit word ih =>
    rcases digits digit List.mem_cons_self with ⟨differs, isWord⟩
    rw [List.cons_append, argumentSizeFrom_cons _ _ differs, isWord]
    by_cases last : word = []
    · rw [last, List.nil_append]
    · exact ih true (fun character member => digits character (List.mem_cons_of_mem _ member)) last

/-- The argument size is found behind the other sizes. -/
theorem argumentSize?_sizesLine (stack locals arguments : Nat) :
    argumentSize? (sizesLine stack locals arguments) = some (ofNat arguments) := by
  have first : ∀ rest, argumentSizeFrom false (("stack=" : Text) ++ rest) =
      argumentSizeFrom false rest := fun _ => rfl
  have second : ∀ rest, argumentSizeFrom true ((", locals=" : Text) ++ rest) =
      argumentSizeFrom false rest := fun _ => rfl
  have all : (ofNat arguments).takeWhile isDigit = ofNat arguments := by
    rw [List.takeWhile_eq_self_iff]
    exact fun _ member => isDigit_of_mem_ofNat member
  have third : argumentSizeFrom true ((", args_size=" : Text) ++ ofNat arguments) =
      argumentSizeFrom false (("args_size=" : Text) ++ ofNat arguments) := rfl
  have last : argumentSizeFrom false (("args_size=" : Text) ++ ofNat arguments) =
      some (ofNat arguments) := by
    rw [show ("args_size=" : Text) ++ ofNat arguments =
      'a' :: (("rgs_size=" : Text) ++ ofNat arguments) from rfl, argumentSizeFrom]
    have found : after? "args_size=" ('a' :: (("rgs_size=" : Text) ++ ofNat arguments)) =
        some (ofNat arguments) := after?_append "args_size=" (ofNat arguments)
    rw [found, Option.getD_some, all]
    simp [ofNat_ne_nil]
  calc argumentSize? (sizesLine stack locals arguments)
    _ = argumentSizeFrom false (ofNat stack ++ ((", locals=" : Text) ++ (ofNat locals ++
          ((", args_size=" : Text) ++ ofNat arguments)))) := first _
    _ = argumentSizeFrom true ((", locals=" : Text) ++ (ofNat locals ++
          ((", args_size=" : Text) ++ ofNat arguments))) := argumentSizeFrom_ofNat false stack _
    _ = argumentSizeFrom false (ofNat locals ++ ((", args_size=" : Text) ++ ofNat arguments)) :=
        second _
    _ = argumentSizeFrom true ((", args_size=" : Text) ++ ofNat arguments) :=
        argumentSizeFrom_ofNat false locals _
    _ = argumentSizeFrom false (("args_size=" : Text) ++ ofNat arguments) := third
    _ = some (ofNat arguments) := last

/-- The code of a method: its sizes, instructions with complete switch blocks, a variable table if
there is one, and what comes behind. -/
structure PrintedCode where
  stack : Nat
  locals : Nat
  arguments : Nat
  instructions : List Text
  table : Option VariableTable
  behind : List Text
  short : (ofNat arguments).length ≤ digitLimit
  isCode : IsCode instructions
  sizeless : ∀ line ∈ instructions, beginsWith "stack=" line = false
  inert : ∀ line ∈ behind, isInert line = true

/-- The lines of code. -/
def PrintedCode.lines (code : PrintedCode) : List Text :=
  sizesLine code.stack code.locals code.arguments ::
    (code.instructions ++ (code.table.toList.flatMap VariableTable.lines ++ code.behind))

/-- The rows of the variable table. -/
def PrintedCode.rows (code : PrintedCode) : List (Nat × Text) :=
  (code.table.map VariableTable.names).getD []

/-- The slots in front of the listed parameters: the arguments that no parameter is listed for, and
none in a static method. -/
def PrintedCode.receiver (code : PrintedCode) (words : List Text) (count : Nat) : Nat :=
  if words.contains "static" then 0 else code.arguments - count

/-- A method or constructor as it is printed. Each parameter is a type and the name that the method
has for it. -/
structure PrintedMethod where
  words : List Text
  heading : MethodHeading
  parameters : List (Text × Text)
  tail : Text
  descriptor : Text
  attributes : List Text
  code : Option PrintedCode
  known : ∀ word ∈ words, word ∈ Member.methodModifiers ++ Member.passedMethodWords
  distinct : (words.filter Member.methodModifiers.contains).Nodup
  isParameter : ∀ parameter ∈ parameters, IsParameterType parameter.1
  ends : endsWith ";" tail = true
  describes : beginsWith descriptorStart descriptor = true
  inert : ∀ line ∈ attributes, isInert line = true
  names : NamesGiven ((code.map PrintedCode.rows).getD [])
    ((code.map fun code => code.receiver words parameters.length).getD 0) 1 parameters

namespace PrintedMethod

/-- The method that is printed. -/
def summary (method : PrintedMethod) : MethodSummary :=
  { name := method.heading.name
    returnType := method.heading.returnType
    modifiers := method.words.filter Member.methodModifiers.contains
    parameters := method.parameters.map fun parameter => parameter.1 ++ ' ' :: parameter.2 }

/-- The line of a method. -/
def line (method : PrintedMethod) : Text :=
  Member.methodLine method.words method.heading.text (method.parameters.map Prod.fst) method.tail

/-- The lines of a method. -/
def lines (method : PrintedMethod) : List Text :=
  method.line :: method.descriptor :: (method.attributes ++
    method.code.toList.flatMap PrintedCode.lines)

/-- What the line of a method says. -/
def signature (method : PrintedMethod) : MethodSummary :=
  { method.summary with parameters := method.parameters.map Prod.fst }

/-- A method with everything read that its lines say. -/
def read (method : PrintedMethod) : OpenMethod :=
  { OpenMethod.ofSignature method.signature with
    rows := (method.code.map PrintedCode.rows).getD []
    argumentSize := method.code.map PrintedCode.arguments }

theorem parseMethod_line (method : PrintedMethod) :
    Member.parseMethod method.line = some method.signature := by
  have each : ∀ parameter ∈ method.parameters.map Prod.fst, IsParameterType parameter := by
    intro parameter member
    rcases List.mem_map.mp member with ⟨typed, isTyped, rfl⟩
    exact method.isParameter typed isTyped
  have parsed := Member.parseMethod_methodLine method.tail method.known
    (fun parameter member => (each parameter member).nonempty)
    (fun parameter member => Member.trim_of_closes (each parameter member).blanks)
    (fun parameter member => (each parameter member).commas)
    (fun parameter member => (each parameter member).uncut) method.heading.isMethodHead
  rw [Member.firstOccurrences_of_nodup method.distinct] at parsed
  exact parsed

theorem declared_ofSignature (method : PrintedMethod) :
    (OpenMethod.ofSignature method.signature).declared =
      method.parameters.map fun parameter => (parameter.1, none) := by
  simp only [OpenMethod.ofSignature, signature, List.map_map]
  apply List.map_congr_left
  intro parameter member
  exact Member.splitDeclaredName_of_closes (method.isParameter parameter member).blanks

theorem contains_static (method : PrintedMethod) :
    method.summary.modifiers.contains "static" = method.words.contains "static" := by
  rw [Bool.eq_iff_iff, List.contains_iff_mem, List.contains_iff_mem, summary, List.mem_filter]
  exact ⟨And.left, fun member => ⟨member, by decide⟩⟩

/-- The parameters fill the slots behind the receiver. -/
theorem receiverSlots_read (method : PrintedMethod) :
    method.read.receiverSlots =
      (method.code.map fun code => code.receiver method.words method.parameters.length).getD 0 := by
  have count : method.read.declared.length = method.parameters.length := by
    rw [read, declared_ofSignature, List.length_map]
  unfold OpenMethod.receiverSlots
  change (if method.summary.modifiers.contains "static" = true then _ else _) = _
  rw [count, contains_static]
  cases shape : method.code with
  | none => simp [read, shape]
  | some code =>
    have size : method.read.argumentSize = some code.arguments := by simp [read, shape]
    rw [size, Option.map_some, Option.getD_some, PrintedCode.receiver]

/-- A method that is read in full is settled as the one that is printed. -/
theorem summary_settle_read (method : PrintedMethod) :
    method.read.settle.summary = method.summary := by
  have named : method.read.namedParameters = method.summary.parameters := by
    have declared : method.read.declared =
        method.parameters.map fun parameter => (parameter.1, none) := method.declared_ofSignature
    rw [OpenMethod.namedParameters, receiverSlots_read, declared]
    exact nameFrom_eq method.names
  have settled : method.read.settle =
      { method.read with settled := some method.read.namedParameters, rows := [] } := rfl
  rw [settled, named]
  rfl

end PrintedMethod

end JarAtlas.Listing
