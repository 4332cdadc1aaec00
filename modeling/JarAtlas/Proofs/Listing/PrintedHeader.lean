import JarAtlas.Proofs.Declaration.Rereading
import JarAtlas.Proofs.Listing.MemberRun

/-!
# Headers as they are printed

The declaration of a class in a package, with any types that the grammar derives. Its line is read
back as the declaration, and a run over the header leaves the class as it is declared, with its body
opened and no member in it.
-/

namespace JarAtlas.Listing

open Text

/-- The declaration of a class in a package. -/
structure PrintedHeader where
  modifiers : List Text
  kind : ClassKind
  package : List Text
  simpleName : Text
  typeParameters : List TypeParameter
  superclass : Option TypeReference
  interfaces : List TypeReference
  permitted : List TypeReference
  known : ∀ word ∈ modifiers, word ∈ classModifiers
  distinct : modifiers.Nodup
  packaged : package ≠ []
  names : ∀ name ∈ package ++ [simpleName], Declaration.isIdentifier name = true
  parameters : ∀ parameter ∈ typeParameters,
    Declaration.IsNamed Declaration.DerivesParameter parameter
  types : ∀ type ∈ superclass.toList ++ interfaces ++ permitted,
    Declaration.IsNamed Declaration.DerivesType type
  interface_root : kind.isInterface = true → superclass = none

namespace PrintedHeader

/-- The declaration that is printed: interfaces extend what classes implement. -/
def declaration (header : PrintedHeader) : Declaration :=
  { writtenModifiers := header.modifiers
    kind := header.kind
    path := header.package ++ [header.simpleName]
    typeParameters := header.typeParameters
    extended := if header.kind.isInterface then header.interfaces else header.superclass.toList
    implemented := if header.kind.isInterface then [] else header.interfaces
    permitted := header.permitted }

/-- The line of a header. -/
def line (header : PrintedHeader) : Text := header.declaration.line

/-- The class that is declared, without members. -/
def summary (header : PrintedHeader) : ClassSummary :=
  { kind := some header.kind
    packageName := join "." header.package
    simpleName := header.simpleName
    modifiers := header.modifiers
    superclass := header.superclass.map TypeReference.erased
    interfaces := header.interfaces.map TypeReference.text
    fields := []
    methods := [] }

variable (header : PrintedHeader)

theorem known_declarationModifiers : ∀ word ∈ header.modifiers, word ∈ declarationModifiers :=
  fun word member => List.mem_append_left _ (header.known word member)

theorem path_ne_nil : header.declaration.path ≠ [] := by simp [declaration]

theorem parse_declaration (trimmed : trim header.line = header.line) :
    Declaration.parse header.line = .ok header.declaration := by
  have types : ∀ type ∈ header.declaration.extended ++ header.declaration.implemented ++
      header.declaration.permitted, Declaration.IsNamed Declaration.DerivesType type := by
    intro type member
    apply header.types
    simp only [declaration] at member
    split at member
    · simp only [List.append_nil, List.mem_append] at member ⊢
      tauto
    · exact member
  rcases Declaration.exists_derives header.path_ne_nil header.names header.parameters types
    with ⟨tokens, rule, fit⟩
  exact Declaration.parse_line rule fit header.known_declarationModifiers trimmed

theorem qualifiedName_eq : header.declaration.qualifiedName =
    join "." header.package ++ '.' :: header.simpleName :=
  join_append_singleton _ header.packaged

/-- Taking over the declaration gives the class that is declared. -/
theorem declare_declaration (simpleName : Text) :
    (ClassSummary.ofSimpleName simpleName).declare header.declaration = header.summary := by
  have dotless : '.' ∉ header.simpleName :=
    Declaration.not_mem_of_isIdentifier (header.names _ (by simp)) (by decide)
  have superclass : header.declaration.superclass? =
      header.superclass.map TypeReference.erased := by
    unfold Declaration.superclass? declaration
    dsimp only
    split
    · rename_i isInterface
      rw [header.interface_root isInterface]
      rfl
    · cases header.superclass <;> rfl
  have interfaces : header.declaration.interfaces = header.interfaces.map TypeReference.text := by
    unfold Declaration.interfaces declaration
    dsimp only
    split <;> rfl
  have packaged : (!(join "." header.package).isEmpty) = true := by
    rw [Bool.not_eq_true', List.isEmpty_eq_false_iff]
    exact Declaration.join_path_ne_nil header.packaged fun name member =>
      header.names name (List.mem_append_left _ member)
  have modifiers : header.declaration.modifiers = header.modifiers :=
    Declaration.modifiers_eq_writtenModifiers header.known header.distinct
  unfold ClassSummary.declare
  rw [header.qualifiedName_eq, cutLast_append _ dotless]
  dsimp only [Option.getD_some]
  rw [if_pos packaged, modifiers, superclass, interfaces]
  rfl

/-- The line of a header looks like a declaration. -/
theorem isDeclaration_line : isDeclaration header.line = true :=
  Listing.isDeclaration_line header.path_ne_nil header.names header.known_declarationModifiers

theorem line_ne_nil : header.line ≠ [] := by
  intro empty
  have declares := header.isDeclaration_line
  have undeclared : isDeclaration [] = false := isDeclaration_eq_false (by decide)
  rw [empty, undeclared] at declares
  contradiction

theorem isDescribed_line (rest : List Text) : isDescribed (header.line :: rest) = false := by
  rw [isDescribed_cons, if_neg header.line_ne_nil, Bool.eq_false_iff]
  intro describes
  have declares := header.isDeclaration_line
  rw [(isSilent_descriptor false describes).undeclared] at declares
  contradiction

/-- A run over a header leaves the class as it is declared, with its body opened. -/
theorem run_header (className : Option Text) {between rest : List Text}
    (trimmed : trim header.line = header.line) (inert : ∀ line ∈ between, isInert line = true) :
    ∃ after : Reading,
      (startFor className).run (header.line :: (between ++ ['\x7b'] :: rest)) = after.run rest ∧
        after.Between header.summary := by
  let declared : Reading :=
    { startFor className with
      settled := header.summary
      bodyOpened := endsWith ['\x7b'] header.line }
  have outside : declared.phase ≠ .inTable := by simp [declared, startFor, Reading.start]
  have fed : (startFor className).feed header.line (nextContent (between ++ ['\x7b'] :: rest)) =
      .next declared := by
    rw [Reading.feed_eq_feedLine _ _ (by simp [startFor, Reading.start])]
    unfold Reading.feedLine shapeOf
    rw [if_pos header.isDeclaration_line]
    dsimp only
    unfold Reading.declare
    rw [header.parse_declaration trimmed]
    dsimp only [startFor, Reading.start]
    rw [header.declare_declaration]
    rfl
  have brace : ∀ next,
      declared.feed ['\x7b'] next = .next { declared with bodyOpened := true } := by
    intro next
    have undeclared : isDeclaration ['\x7b'] = false := isDeclaration_eq_false (by decide)
    rw [Reading.feed_eq_feedLine _ _ outside]
    unfold Reading.feedLine shapeOf
    rw [undeclared]
    rfl
  refine ⟨{ declared with bodyOpened := true }, ?_, ?_⟩
  · rw [Reading.run_cons, fed]
    dsimp only
    rw [Reading.run_inert outside inert rfl, Reading.run_cons, brace]
  · refine ⟨?_, outside, rfl, rfl⟩
    simp [declared, Reading.endMethod, startFor, Reading.start, summary]

end PrintedHeader

end JarAtlas.Listing
