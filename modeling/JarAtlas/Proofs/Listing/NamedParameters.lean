import JarAtlas.Proofs.Listing.Finishing
import JarAtlas.Proofs.Member.DeclaredParameter

/-!
# Parameters split back

A parameter that a class lists is the type of a fragment and a name. It splits back into the two if
the type leaves no bracket open and the name, which may stem from a variable table, is an
identifier.
-/

namespace JarAtlas.Member

variable {list fragment line : Text} {signature : MethodSummary}

/-- The type of a fragment is trimmed and not empty if the fragment is. -/
theorem type_splitDeclaredName (nonempty : fragment ≠ []) (trimmed : Text.trim fragment = fragment) :
    (splitDeclaredName fragment).1 ≠ [] ∧
      Text.trim (splitDeclaredName fragment).1 = (splitDeclaredName fragment).1 := by
  rcases split : splitDeclaredName fragment with ⟨type, name⟩
  cases name with
  | some name =>
    have declared := splitDeclaredName_eq_some_iff.mp split
    exact ⟨declared.nonempty, declared.trimmed⟩
  | none =>
    have unsplit : splitDeclaredName fragment = (fragment, none) := by
      apply splitDeclaredName_eq_none
      intro otherType name declared
      rw [splitDeclaredName_eq_some_iff.mpr declared] at split
      cases split
    rw [unsplit] at split
    cases split
    exact ⟨nonempty, trimmed⟩

theorem parameter_of_parseMethod (parsed : parseMethod line = some signature)
    (member : fragment ∈ signature.parameters) :
    fragment ≠ [] ∧ Text.trim fragment = fragment := by
  simp only [parseMethod, Option.bind_eq_bind, Option.bind_eq_some_iff, Option.pure_def,
    Option.some.injEq, Prod.exists] at parsed
  rcases parsed with ⟨head, behind, -, parameters, rest, -, returnType, name, -, rfl⟩
  rcases splitParameters_of_mem member with ⟨nonempty, trimmed, -⟩
  exact ⟨nonempty, trimmed⟩

end JarAtlas.Member

namespace JarAtlas.Listing

open Member

/-- A parameter is the type of a fragment and a name, and splits back into them if the type is
balanced and the name is an identifier. -/
def SplitsBack (fragment parameter : Text) : Prop :=
  ∃ name : Text, parameter = (splitDeclaredName fragment).1 ++ ' ' :: name ∧
    (IsBalanced (splitDeclaredName fragment).1 → Declaration.isIdentifier name = true →
      splitDeclaredName parameter = ((splitDeclaredName fragment).1, some name))

theorem splitsBack_of_namedAt {line : Text} {method : MethodSummary} (named : NamedAt line method) :
    ∃ signature, parseMethod line = some signature ∧
      method = { signature with parameters := method.parameters } ∧
      List.Forall₂ SplitsBack signature.parameters method.parameters := by
  rcases named with ⟨signature, parsed, same, parameters⟩
  refine ⟨signature, parsed, same, ?_⟩
  rw [List.forall₂_map_left_iff] at parameters
  have all : ∀ fragment ∈ signature.parameters, fragment ≠ [] ∧ Text.trim fragment = fragment :=
    fun fragment => parameter_of_parseMethod parsed
  apply ((List.forall₂_and_left _ _).mpr ⟨all, parameters⟩).imp
  rintro fragment parameter ⟨⟨nonempty, trimmed⟩, name, -, written⟩
  refine ⟨name, written, ?_⟩
  intro balanced isName
  rcases type_splitDeclaredName nonempty trimmed with ⟨nonemptyType, trimmedType⟩
  rw [written]
  apply splitDeclaredName_eq_some_iff.mpr
  exact isDeclared_of_balanced nonemptyType trimmedType balanced isName

/-- How declared parameters are split. A type with balanced brackets and an identifier behind it come
back from the parameter that they make up, so every parameter of a class that is read splits back
into its type and its name if these are such. A text whose blanks all stand inside brackets is all
type. And a parameter is split exactly where it is written as a trimmed type that leaves no bracket
open, white space and an identifier. -/
theorem parameters_split_back :
    (∀ type name : Text, type ≠ [] → Text.trim type = type → IsBalanced type →
      Declaration.isIdentifier name = true →
      splitDeclaredName (type ++ ' ' :: name) = (type, some name)) ∧
    (∀ (text : Text) (className : Option Text) (summary : ClassSummary),
      parse (some text) className = .ok summary →
      ∀ method ∈ summary.methods, ∃ line ∈ contentLines text, ∃ signature,
        parseMethod line = some signature ∧
        method = { signature with parameters := method.parameters } ∧
        List.Forall₂ SplitsBack signature.parameters method.parameters) ∧
    (∀ type : Text, BlanksInside 0 type → splitDeclaredName type = (type, none)) ∧
    ∀ parameter type name : Text,
      splitDeclaredName parameter = (type, some name) ↔ IsDeclared parameter type name := by
  refine ⟨?_, ?_, fun _ => splitDeclaredName_of_blanksInside, fun _ _ _ =>
    splitDeclaredName_eq_some_iff⟩
  · intro type name nonempty trimmed balanced isName
    apply splitDeclaredName_eq_some_iff.mpr
    exact isDeclared_of_balanced nonempty trimmed balanced isName
  · intro text className summary read method member
    rcases parse_eq_ok_iff.mp read with ⟨-, done, -⟩
    rcases Reading.exists_signatureLines_of_run (Reading.coherent_start _) done with
      ⟨lines, sublist, named⟩
    rcases List.forall₂_iff_get.mp named with ⟨sameLength, namedAt⟩
    rcases List.mem_iff_get.mp member with ⟨index, rfl⟩
    have below : index.1 < lines.length := by
      rw [sameLength]
      exact index.2
    refine ⟨lines.get ⟨index.1, below⟩, ?_, splitsBack_of_namedAt (namedAt index.1 below index.2)⟩
    simpa using sublist.subset (List.get_mem lines ⟨index.1, below⟩)

/-- A method with a parameter that a table names and one that its own line names. -/
def entriesText : Text :=
  Text.join "\n"
    ["class a.Cache", ['\x7b'], " void put(Map<K, Pair<V, int>>, final int count);",
      " descriptor: (LMap;I)V", " LocalVariableTable:", " Start Length Slot Name Signature",
      " 0 5 0 this La/Cache;", " 0 5 1 entries LMap;", ['\x7d']]

theorem parameters_split_back_entries :
    splitDeclaredName "Map<K, Pair<V, int>> entries" =
        (("Map<K, Pair<V, int>>", some "entries") : Text × Option Text) ∧
      (∃ summary, parse (some entriesText) none = .ok summary ∧
        summary.methods.map MethodSummary.parameters =
          ([["Map<K, Pair<V, int>> entries", "final int count"]] : List (List Text)) ∧
        ∀ method ∈ summary.methods, ∃ line ∈ contentLines entriesText, ∃ signature,
          parseMethod line = some signature ∧
          method = { signature with parameters := method.parameters } ∧
          List.Forall₂ SplitsBack signature.parameters method.parameters) ∧
      splitDeclaredName "Map<K, ? super V>" =
        (("Map<K, ? super V>", none) : Text × Option Text) ∧
      splitDeclaredName "\u00A0a> b<c d>\u2003\tcount" =
        (("a> b<c d>", some "count") : Text × Option Text) := by
  have balanced : IsBalanced "Map<K, Pair<V, int>>" := ⟨by decide +kernel, by decide⟩
  have inside : BlanksInside 0 "Map<K, ? super V>" :=
    cutLastBlank_eq_none_iff.mp (by decide +kernel)
  have declared : IsDeclared "\u00A0a> b<c d>\u2003\tcount" "a> b<c d>" "count" :=
    ⟨by decide, by decide +kernel, by decide, by decide +kernel, "\u00A0", "\u2003\t",
      List.all_eq_true.mp (by decide), List.all_eq_true.mp (by decide), by decide, by decide⟩
  have read : parse (some entriesText) none = .ok
      { kind := some .ordinary, packageName := "a", simpleName := "Cache", modifiers := []
        superclass := none, interfaces := [], fields := []
        methods :=
          [{ name := "put", returnType := "void", modifiers := []
             parameters := ["Map<K, Pair<V, int>> entries", "final int count"] }] } := by
    decide +kernel
  refine ⟨?_, ⟨_, read, rfl, ?_⟩, ?_, ?_⟩
  · exact parameters_split_back.1 _ _ (by decide) (by decide +kernel) balanced (by decide +kernel)
  · exact parameters_split_back.2.1 _ _ _ read
  · exact parameters_split_back.2.2.1 _ inside
  · exact (parameters_split_back.2.2.2 _ _ _).mpr declared

end JarAtlas.Listing
