import JarAtlas.Proofs.Member.Signature

/-!
# What a member line is written from

A method line is written from words, a return type, a name and parameters, with any text behind the
parentheses; a field line is written from words, a type and a name. The words may be mixed and
repeated, and types may hold blanks, commas and nested arguments. All of it comes back when the line
is read, each modifier once, where it appears first.
-/

namespace JarAtlas.Member

/-- A parameter as a method line holds it. -/
structure IsWrittenParameter (parameter : Text) : Prop where
  nonempty : parameter ≠ []
  trimmed : Text.trim parameter = parameter
  nested : IsNested parameter
  uncut : ')' ∉ parameter

/-- What a method line is written from. -/
structure WrittenMethod where
  words : List Text
  returnType : Text
  name : Text
  parameters : List Text
  tail : Text
  known : ∀ word ∈ words, word ∈ methodModifiers ++ passedMethodWords
  nonempty : returnType ≠ []
  trimmed : Text.trim returnType = returnType
  uncut : '(' ∉ returnType
  foreign : Text.firstWord returnType ∉ methodModifiers ++ passedMethodWords
  isName : Declaration.isIdentifier name = true
  isParameter : ∀ parameter ∈ parameters, IsWrittenParameter parameter

/-- What a field line is written from. -/
structure WrittenField where
  words : List Text
  type : Text
  name : Text
  known : ∀ word ∈ words, word ∈ fieldModifiers
  isType : IsFieldType type
  foreign : Text.firstWord type ∉ fieldModifiers
  isName : Declaration.isIdentifier name = true

/-- The line of a method. -/
def WrittenMethod.line (method : WrittenMethod) : Text :=
  methodLine method.words (method.returnType ++ ' ' :: method.name) method.parameters method.tail

/-- The method that is written. -/
def WrittenMethod.summary (method : WrittenMethod) : MethodSummary :=
  { name := method.name
    returnType := method.returnType
    modifiers := (method.words.filter methodModifiers.contains).eraseDups
    parameters := method.parameters }

/-- The line of a field. -/
def WrittenField.line (field : WrittenField) : Text := fieldLine field.words field.type field.name

/-- The field that is written. -/
def WrittenField.summary (field : WrittenField) : FieldSummary :=
  { name := field.name, type := field.type, modifiers := field.words.eraseDups }

theorem WrittenMethod.isMethodHead (method : WrittenMethod) :
    IsMethodHead (method.returnType ++ ' ' :: method.name) method.returnType method.name :=
  isMethodHead_of_type method.nonempty method.trimmed method.uncut method.foreign method.isName

theorem WrittenMethod.parseMethod_line (method : WrittenMethod) :
    parseMethod method.line = some method.summary := by
  have parsed := parseMethod_methodLine method.tail method.known
    (fun parameter member => (method.isParameter parameter member).nonempty)
    (fun parameter member => (method.isParameter parameter member).trimmed)
    (fun parameter member => (method.isParameter parameter member).nested.closesAround)
    (fun parameter member => (method.isParameter parameter member).uncut) method.isMethodHead
  rw [firstOccurrences_eq_eraseDups] at parsed
  exact parsed

theorem WrittenField.parseField_line (field : WrittenField) :
    parseField field.line = some field.summary := by
  have parsed := parseField_fieldLine field.known field.isType field.foreign field.isName
  rw [firstOccurrences_eq_eraseDups] at parsed
  exact parsed

/-- Member lines are read as what they are written from. -/
theorem memberLines_read_back :
    (∀ method : WrittenMethod, parseMethod method.line = some method.summary) ∧
      ∀ field : WrittenField, parseField field.line = some field.summary :=
  ⟨WrittenMethod.parseMethod_line, WrittenField.parseField_line⟩

/-- A generic method with a modifier that is repeated around one that is passed over. -/
def mergeMethod : WrittenMethod where
  words := ["static", "default", "public", "static"]
  returnType := "<K, V extends a.Base<K>> java.util.Map<K, V>"
  name := "merge"
  parameters := ["java.util.Map<K, ? super V>", "int..."]
  tail := " throws b.Failure;"
  known := by decide
  nonempty := by decide
  trimmed := by decide
  uncut := by decide
  foreign := by decide
  isName := by decide +kernel
  isParameter := by
    intro parameter member
    rw [List.mem_pair] at member
    rcases member with rfl | rfl
    · exact ⟨by decide, by decide, ⟨by decide +kernel, by decide, by decide +kernel⟩, by decide⟩
    · exact ⟨by decide, by decide, ⟨by decide +kernel, by decide, by decide +kernel⟩, by decide⟩

/-- A field of a nested type with blanks in it. -/
def cacheField : WrittenField where
  words := ["private", "volatile", "private"]
  type := "java.util.Map<a.Key, ? extends b.Value>[]"
  name := "cache$1"
  known := by decide
  isType := ⟨⟨'j', by decide, by decide +kernel⟩, by decide, by decide⟩
  foreign := by decide
  isName := by decide +kernel

theorem memberLines_read_back_merge :
    parseMethod
        ("static default public static <K, V extends a.Base<K>> java.util.Map<K, V> " ++
          "merge(java.util.Map<K, ? super V>, int...) throws b.Failure;") =
      some
        { name := "merge", returnType := "<K, V extends a.Base<K>> java.util.Map<K, V>"
          modifiers := ["static", "public"]
          parameters := ["java.util.Map<K, ? super V>", "int..."] } ∧
    parseField "private volatile private java.util.Map<a.Key, ? extends b.Value>[] cache$1;" =
      some
        { name := "cache$1", type := "java.util.Map<a.Key, ? extends b.Value>[]"
          modifiers := ["private", "volatile"] } :=
  ⟨memberLines_read_back.1 mergeMethod, memberLines_read_back.2 cacheField⟩

end JarAtlas.Member
