import JarAtlas.Proofs.Member.Signature

/-!
# Constructor lines

A constructor is listed by the qualified name of its class where a method has a type and a name, and
its line is read as that of a constructor. Type parameters of its own, which stand in front of the
name with a space between, are taken for a return type: the line then lists a method under the name
of the class if that has no dot, and cannot be read if it has one.
-/

namespace JarAtlas.Member

open Text

/-- The type parameters of a constructor as they are written. -/
def ownTypeParameters (inner : Text) : Text := '<' :: (inner ++ ['>'])

theorem ownTypeParameters_ne_nil (inner : Text) : ownTypeParameters inner ≠ [] :=
  List.cons_ne_nil _ _

theorem trim_ownTypeParameters (inner : Text) :
    trim (ownTypeParameters inner) = ownTypeParameters inner := by
  apply trim_eq_self
  · rintro character ⟨⟩
    decide
  · intro character last
    rw [ownTypeParameters, ← List.cons_append, List.getLast?_concat, Option.mem_some_iff] at last
    subst last
    decide

theorem firstWord_ownTypeParameters (inner : Text) :
    firstWord (ownTypeParameters inner) ∉ methodModifiers ++ passedMethodWords := by
  have unbracketed : ∀ word ∈ methodModifiers ++ passedMethodWords, word.head? ≠ some '<' := by
    decide
  intro known
  exact unbracketed _ known (by simp [ownTypeParameters, firstWord])

section Name

variable {path : List Text} (nonempty : path ≠ [])
  (names : ∀ name ∈ path, Declaration.isIdentifier name = true)

include nonempty names

/-- A qualified name is an identifier only if it has no dot. -/
theorem isIdentifier_join_path :
    Declaration.isIdentifier (join "." path) = true ↔ path.length = 1 := by
  cases path with
  | nil => contradiction
  | cons first others =>
    cases others with
    | nil => simpa [join] using names first List.mem_cons_self
    | cons second others =>
      have dotted : '.' ∈ join "." (first :: second :: others) := by
        rw [join_cons_cons]
        simp
      have unidentified : ¬Declaration.isIdentifier (join "." (first :: second :: others)) = true :=
        fun whole => Declaration.not_mem_of_isIdentifier whole (by decide) dotted
      exact iff_of_false unidentified (by simp)

/-- Behind a type only a name without a dot is read. -/
theorem methodHead?_type_path {type : Text} (nonemptyType : type ≠ []) (trimmed : trim type = type) :
    methodHead? (type ++ ' ' :: join "." path) =
      if path.length = 1 then some (type, join "." path) else none := by
  have spaceless : ' ' ∉ join "." path :=
    Declaration.not_mem_join_path names (by decide) (by decide)
  unfold methodHead?
  rw [if_neg (by simp), cutLast_append _ spaceless]
  simp only [Option.getD_some, trimmed, List.isEmpty_eq_false_iff.mpr nonemptyType,
    Bool.false_eq_true, if_false]
  exact if_congr (isIdentifier_join_path nonempty names) rfl rfl

theorem isHeadText_ownTypeParameters {inner : Text} (uncut : '(' ∉ inner) :
    IsHeadText (ownTypeParameters inner ++ ' ' :: join "." path) :=
  isHeadText_of_type (ownTypeParameters_ne_nil inner) (trim_ownTypeParameters inner)
    (by simpa [ownTypeParameters] using uncut) (firstWord_ownTypeParameters inner)
    (Declaration.join_path_ne_nil nonempty names)
    (fun _ member => Declaration.isBlank_eq_false_of_mem_join_path names member)
    (Declaration.not_mem_join_path names (by decide) (by decide))

end Name

/-- A constructor without type parameters of its own is read as one, with its modifiers and its
parameters. One with such parameters is not: it is read as a method that returns them if the name of
the class has no dot, and not at all if it has one. -/
theorem parseMethod_constructorLine {words path parameters : List Text} (tail : Text)
    (known : ∀ word ∈ words, word ∈ methodModifiers) (nonempty : path ≠ [])
    (names : ∀ name ∈ path, Declaration.isIdentifier name = true)
    (filled : ∀ parameter ∈ parameters, parameter ≠ [])
    (trimmed : ∀ parameter ∈ parameters, trim parameter = parameter)
    (closed : ∀ parameter ∈ parameters, closesAround (· == ',') 0 parameter = true)
    (uncut : ∀ parameter ∈ parameters, ')' ∉ parameter) :
    parseMethod (methodLine words (join "." path) parameters tail) =
      some
        { name := constructorName
          returnType := "void"
          modifiers := firstOccurrences words
          parameters } ∧
    (words.Nodup → firstOccurrences words = words) ∧
    ∀ inner, '(' ∉ inner →
      parseMethod
          (methodLine words (ownTypeParameters inner ++ ' ' :: join "." path) parameters tail) =
        if path.length = 1 then
          some
            { name := join "." path
              returnType := ownTypeParameters inner
              modifiers := firstOccurrences words
              parameters }
        else none := by
  have knownWords : ∀ word ∈ words, word ∈ methodModifiers ++ passedMethodWords :=
    fun word member => List.mem_append_left _ (known word member)
  have reported : words.filter methodModifiers.contains = words := by
    rw [List.filter_eq_self]
    simpa using known
  refine ⟨?_, firstOccurrences_of_nodup, ?_⟩
  · rw [parseMethod_methodLine tail knownWords filled trimmed closed uncut
      (isMethodHead_of_path nonempty names), reported]
  · intro inner uncutInner
    rw [parseMethod_eq_map tail knownWords filled trimmed closed uncut
      (isHeadText_ownTypeParameters nonempty names uncutInner),
      methodHead?_type_path nonempty names (ownTypeParameters_ne_nil inner)
        (trim_ownTypeParameters inner), reported]
    split_ifs <;> rfl

theorem parseMethod_constructorLine_pair :
    parseMethod "public a.Pair(java.util.Map<K, V>, int);" =
        some
          { name := constructorName, returnType := "void", modifiers := ["public"]
            parameters := ["java.util.Map<K, V>", "int"] } ∧
      parseMethod "public <T extends a.Base & b.Part> Pair(java.util.Map<K, V>, int);" =
        some
          { name := "Pair", returnType := "<T extends a.Base & b.Part>", modifiers := ["public"]
            parameters := ["java.util.Map<K, V>", "int"] } := by
  have names : ∀ name ∈ (["a", "Pair"] : List Text), Declaration.isIdentifier name = true := by
    decide +kernel
  have simpleName : ∀ name ∈ (["Pair"] : List Text), Declaration.isIdentifier name = true := by
    decide +kernel
  have closed : ∀ parameter ∈ (["java.util.Map<K, V>", "int"] : List Text),
      closesAround (· == ',') 0 parameter = true := by
    decide
  have knownWords : ∀ word ∈ (["public"] : List Text), word ∈ methodModifiers := by decide
  exact ⟨(parseMethod_constructorLine ";" knownWords (by decide) names (by decide) (by decide)
      closed (by decide)).1,
    (parseMethod_constructorLine ";" knownWords (by decide) simpleName (by decide) (by decide)
      closed (by decide)).2.2 "T extends a.Base & b.Part" (by decide)⟩

/-- A constructor with a type parameter of its own is lost, or listed as a method. -/
theorem parseMethod_genericConstructor :
    parseMethod "public <T> a.Shape(T);" = none ∧
      (parseMethod "public <T> Shape(T);").map (fun method => (method.name, method.returnType)) =
        some (("Shape", "<T>") : Text × Text) := by
  decide +kernel

end JarAtlas.Member
