import JarAtlas.Proofs.Declaration.Surroundings
import JarAtlas.Proofs.Listing.DeclarationLine

/-!
# Reading a header again

What a declaration is reported as is its header: texts, with the modifiers of the class vocabulary
once each. A header has a line of its own, with single spaces. This line need not be the one that was
read, but it declares the same: it is taken for a declaration, it is accepted, and it has the same
header.
-/

namespace JarAtlas

/-- A type as a header tells it: the name without type arguments, and the full text. -/
structure TypeTexts where
  name : Text
  text : Text
deriving DecidableEq

/-- What a declaration is reported as. -/
structure Header where
  modifiers : List Text
  kind : ClassKind
  qualifiedName : Text
  typeParameters : Text
  extended : List TypeTexts
  implemented : List TypeTexts
  permitted : List TypeTexts
deriving DecidableEq

def TypeReference.texts (type : TypeReference) : TypeTexts := ⟨type.erased, type.text⟩

namespace Header

/-- A clause of a header behind its keyword; nothing when it has no types. -/
def clause (keyword : Text) (types : List TypeTexts) : Text :=
  if types.isEmpty then []
  else ' ' :: keyword ++ ' ' :: Text.join ", " (types.map TypeTexts.text)

/-- The line that a header makes. -/
def line (header : Header) : Text :=
  Text.spaced header.modifiers ++
    (header.kind.keyword ++ ' ' :: (header.qualifiedName ++
      (header.typeParameters ++ (clause "extends" header.extended ++
        (clause "implements" header.implemented ++ clause "permits" header.permitted)))))

end Header

namespace Declaration

def header (declaration : Declaration) : Header :=
  { modifiers := declaration.modifiers
    kind := declaration.kind
    qualifiedName := declaration.qualifiedName
    typeParameters := declaration.typeParametersText
    extended := declaration.extended.map TypeReference.texts
    implemented := declaration.implemented.map TypeReference.texts
    permitted := declaration.permitted.map TypeReference.texts }

/-- The declaration with its modifiers written as they are reported. -/
def withReportedModifiers (declaration : Declaration) : Declaration :=
  { declaration with writtenModifiers := declaration.modifiers }

theorem clause_texts (keyword : Text) (types : List TypeReference) :
    Header.clause keyword (types.map TypeReference.texts) = clauseText keyword types := by
  simp [Header.clause, clauseText, Function.comp_def, TypeReference.texts]

/-- The line of a header is that of its declaration, but for the modifiers. -/
theorem line_header (declaration : Declaration) :
    declaration.header.line = declaration.withReportedModifiers.line := by
  simp [Header.line, header, clause_texts, line, withReportedModifiers, qualifiedName,
    typeParametersText]

/-- Reported modifiers are reported again. -/
theorem header_withReportedModifiers (declaration : Declaration) :
    declaration.withReportedModifiers.header = declaration.header := by
  have drawn := drawnFrom_modifiers declaration
  have modifiers : declaration.withReportedModifiers.modifiers = declaration.modifiers :=
    modifiers_eq_writtenModifiers drawn.known drawn.distinct
  simp only [header, modifiers]
  rfl

theorem known_withReportedModifiers (declaration : Declaration) :
    ∀ word ∈ declaration.withReportedModifiers.writtenModifiers, word ∈ declarationModifiers := by
  intro word member
  exact List.mem_append_left _ ((drawnFrom_modifiers declaration).known word member)

end Declaration

namespace Listing

open Text

/-- The line of a declaration looks like one. -/
theorem isDeclaration_line {declaration : Declaration} (nonempty : declaration.path ≠ [])
    (names : ∀ name ∈ declaration.path, Declaration.isIdentifier name = true)
    (known : ∀ word ∈ declaration.writtenModifiers, word ∈ declarationModifiers) :
    isDeclaration declaration.line = true := by
  rcases Declaration.exists_start_join_path nonempty names with ⟨first, head, starts⟩
  rcases List.head?_eq_some_iff.mp head with ⟨others, name⟩
  have part := Declaration.isIdentifierPart_of_isIdentifierStart starts
  have visible : isBlank first = false := Declaration.isBlank_eq_false_of_isIdentifierPart part
  have keyword : IsVisible declaration.kind.keyword := by
    cases declaration.kind <;> exact ⟨_, rfl, by decide⟩
  change declaration.qualifiedName = first :: others at name
  simp only [Declaration.line, name, List.cons_append]
  rw [isDeclaration_spaced known (keyword.append _)]
  apply isDeclaration_keyword
  · exact ⟨first, rfl, starts⟩
  · rintro character ⟨⟩
    exact visible

end Listing

namespace Declaration

section Accepted

variable {line : Text} {declaration : Declaration}

theorem parse_eq_ok_of_toOption (isRead : (parse line).toOption = some declaration) :
    parse line = .ok declaration := by
  cases parsed : parse line with
  | error refusal => simp [parsed, Except.toOption] at isRead
  | ok found =>
    simp only [parsed, Except.toOption, Option.some.injEq] at isRead
    rw [isRead]

/-- An accepted declaration is derived with reported modifiers, and without a brace, as well. -/
theorem exists_derives_withReportedModifiers (accepted : parse line = .ok declaration) :
    ∃ tokens, Derives declaration.withReportedModifiers false tokens ∧ NamesFit tokens := by
  rcases parse_eq_ok_iff.mp accepted with ⟨brace, tokens, rule, blanks, -, reads⟩
  have fit : NamesFit tokens := by
    intro name member
    rcases reads.exists_fits member with ⟨behind, whole, -⟩
    exact whole
  cases rule with
  | mk path typeParameters extended implemented permitted =>
    refine ⟨_, .mk path typeParameters extended implemented permitted, ?_⟩
    intro name member
    apply fit name
    simp only [List.mem_append, List.mem_map, List.mem_cons, reduceCtorEq, and_false,
      exists_false, false_or] at member ⊢
    simp [braceTokens] at member
    tauto

/-- The line of an accepted declaration with reported modifiers is read as the declaration. -/
theorem parse_line_withReportedModifiers (accepted : parse line = .ok declaration) :
    parse declaration.withReportedModifiers.line = .ok declaration.withReportedModifiers := by
  rcases exists_derives_withReportedModifiers accepted with ⟨tokens, rule, fit⟩
  rcases rule.covers fit declaration.known_withReportedModifiers with ⟨blanks, blank, reads⟩
  have cut : Cut declaration.withReportedModifiers.line tokens :=
    ⟨blanks, blank, by simpa using reads⟩
  exact parse_eq_ok_iff.mpr ⟨false, tokens, rule, cut.trim⟩

/-- The line that the header of an accepted declaration makes is taken for a declaration, it is
accepted, and its header is the same. -/
theorem parse_header_line (accepted : parse line = .ok declaration) :
    Listing.isDeclaration declaration.header.line = true ∧
      ∃ again, parse declaration.header.line = .ok again ∧ again.header = declaration.header := by
  have known := declaration.known_withReportedModifiers
  have names := isIdentifier_of_parse accepted
  rw [line_header]
  exact ⟨Listing.isDeclaration_line names.1 names.2 known, declaration.withReportedModifiers,
    parse_line_withReportedModifiers accepted, header_withReportedModifiers declaration⟩

end Accepted

/-- A declaration with a repeated modifier and one that is not reported, and with few blanks. -/
def boxLine : Text :=
  "final public final sealed class a . Box<T extends b.Num&c.D<? super T[]>>" ++
    ("extends d.Base<T,?>.Inner[] implements e.F , g.H<?>permits a.Leaf\x7b" : Text)

/-- The line of the header, with other blanks and fewer words, declares the same. -/
theorem parse_header_line_box :
    ∃ declaration again, parse boxLine = .ok declaration ∧
      declaration.header.line =
        "final public class a.Box<T extends b.Num & c.D<? super T[]>> " ++
          ("extends d.Base<T, ?>.Inner[] implements e.F, g.H<?> permits a.Leaf" : Text) ∧
      declaration.header.extended = [⟨"d.Base.Inner[]", "d.Base<T, ?>.Inner[]"⟩] ∧
      parse declaration.header.line = .ok again ∧ again.header = declaration.header := by
  have read : (parse boxLine).toOption.map
      (fun declaration => (declaration.header.line, declaration.header.extended)) =
        some ("final public class a.Box<T extends b.Num & c.D<? super T[]>> " ++
          ("extends d.Base<T, ?>.Inner[] implements e.F, g.H<?> permits a.Leaf" : Text),
          [⟨"d.Base.Inner[]", "d.Base<T, ?>.Inner[]"⟩]) := by
    decide +kernel
  rcases Option.map_eq_some_iff.mp read with ⟨declaration, isRead, shown⟩
  rcases Prod.mk.inj shown with ⟨line, extended⟩
  have accepted := parse_eq_ok_of_toOption isRead
  rcases (parse_header_line accepted).2 with ⟨again, reread, same⟩
  exact ⟨declaration, again, accepted, line, extended, reread, same⟩

end Declaration

end JarAtlas
