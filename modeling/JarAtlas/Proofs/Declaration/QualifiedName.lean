import JarAtlas.Proofs.Declaration.Exactness
import JarAtlas.Proofs.Declaration.Identifier
import JarAtlas.Summary

/-!
# Names in accepted declarations

The name of a declaration that is accepted is made of identifiers, so a class that takes it over has
a simple name, with or without a package in front. So is the name of a superclass.
-/

namespace JarAtlas.Declaration

theorem Reads.exists_fits {text rest : Text} {tokens : List Token} (reads : Reads text tokens rest)
    {token : Token} (member : token ∈ tokens) : ∃ behind, token.Fits behind := by
  induction reads with
  | nil text => contradiction
  | @cons blanks behind rest first others blank fits reads ih =>
    rcases List.mem_cons.mp member with rfl | later
    · exact ⟨behind, fits⟩
    · exact ih later

theorem Separated.mem_tokens {path : List Text} {tokens : List Token} {separator : Text}
    (rule : Separated separator DerivesIdentifier path tokens) :
    path ≠ [] ∧ ∀ name ∈ path, Token.identifier name ∈ tokens := by
  induction rule with
  | last rule =>
    cases rule
    simp
  | more rule rest ih =>
    cases rule
    refine ⟨by simp, ?_⟩
    intro name member
    rcases List.mem_cons.mp member with rfl | later
    · simp
    · simp [ih.2 name later]

/-- The name of an accepted declaration is one or more identifiers. -/
theorem isIdentifier_of_parse {line : Text} {declaration : Declaration}
    (accepted : parse line = .ok declaration) :
    declaration.path ≠ [] ∧ ∀ name ∈ declaration.path, isIdentifier name = true := by
  rcases parse_eq_ok_iff.mp accepted with ⟨brace, tokens, ⟨path, -, -, -, -⟩, blanks, -, reads⟩
  refine ⟨path.mem_tokens.1, ?_⟩
  intro name member
  have isToken := path.mem_tokens.2 name member
  have fits := reads.exists_fits (List.mem_append_right _
    (List.mem_cons_of_mem _ (List.mem_append_left _ isToken)))
  rcases fits with ⟨behind, whole, -⟩
  exact whole

/-- The class is declared in a package. -/
def IsPackaged (declaration : Declaration) : Prop := '.' ∈ declaration.qualifiedName

instance : DecidablePred IsPackaged := fun declaration =>
  inferInstanceAs (Decidable ('.' ∈ declaration.qualifiedName))

/-- A name with a package is the package, the last dot and a simple name. -/
theorem exists_cutLast_of_isPackaged {line : Text} {declaration : Declaration}
    (accepted : parse line = .ok declaration) (packaged : declaration.IsPackaged) :
    ∃ package simple, package ≠ [] ∧ simple ≠ [] ∧
      Text.cutLast '.' declaration.qualifiedName = some (package, simple) := by
  rcases isIdentifier_of_parse accepted with ⟨nonempty, names⟩
  rcases List.eq_nil_or_concat declaration.path with empty | ⟨packages, last, split⟩
  · exact absurd empty nonempty
  · rw [List.concat_eq_append] at split
    have whole := names last (by simp [split])
    have noDot : '.' ∉ last := not_mem_of_isIdentifier whole (by decide +kernel)
    rw [IsPackaged, Declaration.qualifiedName, split] at packaged
    rw [Declaration.qualifiedName, split]
    cases packages with
    | nil => exact absurd packaged noDot
    | cons first packages =>
      have front : ∀ name ∈ first :: packages, isIdentifier name = true := fun name member =>
        names name (split ▸ List.mem_append_left _ member)
      rw [Text.join_append_singleton last (List.cons_ne_nil _ _)]
      exact ⟨_, last, join_path_ne_nil (List.cons_ne_nil _ _) front, ne_nil_of_isIdentifier whole,
        Text.cutLast_append _ noDot⟩

section Declare

variable {line : Text} {declaration : Declaration} (summary : ClassSummary)

/-- A class that takes over a name with a package has that package and the simple name behind it. -/
theorem cutLast_of_isPackaged (accepted : parse line = .ok declaration)
    (packaged : declaration.IsPackaged) :
    Text.cutLast '.' declaration.qualifiedName =
      some ((summary.declare declaration).packageName, (summary.declare declaration).simpleName) := by
  rcases exists_cutLast_of_isPackaged accepted packaged with ⟨package, simple, nonempty, -, cut⟩
  unfold ClassSummary.declare
  rw [cut, Option.getD_some]
  dsimp only
  rw [if_pos (by simpa using nonempty)]

/-- A name without a package is taken over only where no simple name is known. -/
theorem names_declare_of_not_isPackaged (unpackaged : ¬declaration.IsPackaged) :
    (summary.declare declaration).packageName = summary.packageName ∧
      (summary.declare declaration).simpleName =
        if summary.simpleName = [] then declaration.qualifiedName else summary.simpleName := by
  unfold ClassSummary.declare
  rw [Text.cutLast_eq_none unpackaged, Option.getD_none]
  by_cases nameless : summary.simpleName = [] <;> simp [nameless]

/-- A class that takes over an accepted declaration has a simple name. -/
theorem simpleName_declare_ne_nil (accepted : parse line = .ok declaration) :
    (summary.declare declaration).simpleName ≠ [] := by
  by_cases packaged : declaration.IsPackaged
  · rcases exists_cutLast_of_isPackaged accepted packaged with ⟨package, simple, -, named, cut⟩
    rw [cutLast_of_isPackaged summary accepted packaged] at cut
    cases cut
    exact named
  · rw [(names_declare_of_not_isPackaged summary packaged).2]
    split_ifs with nameless
    · rcases isIdentifier_of_parse accepted with ⟨nonempty, names⟩
      exact join_path_ne_nil nonempty names
    · exact nameless

end Declare

/-- An item of a list stands among the terminals of the list. -/
theorem Separated.exists_of_mem {Item : Type} {separator : Text} {Rule : Item → List Token → Prop}
    {items : List Item} {tokens : List Token} {item : Item}
    (rules : Separated separator Rule items tokens) (member : item ∈ items) :
    ∃ own, Rule item own ∧ own ⊆ tokens := by
  induction rules with
  | last rule =>
    cases List.mem_singleton.mp member
    exact ⟨_, rule, List.Subset.refl _⟩
  | more rule rules ih =>
    rcases List.mem_cons.mp member with rfl | later
    · exact ⟨_, rule, List.subset_append_left _ _⟩
    · rcases ih later with ⟨own, derived, stands⟩
      exact ⟨own, derived, fun token isOwn => by simp [stands isOwn]⟩

/-- A type of a clause stands behind the keyword. -/
theorem DerivesClause.exists_of_mem {keyword : Text} {types : List TypeReference}
    {tokens : List Token} {type : TypeReference} (rule : DerivesClause keyword types tokens)
    (member : type ∈ types) : ∃ own, DerivesType type own ∧ own ⊆ tokens := by
  cases rule with
  | none => contradiction
  | some rule =>
    rcases rule.exists_of_mem member with ⟨own, derived, stands⟩
    exact ⟨own, derived, List.subset_cons_of_subset _ stands⟩

/-- A type that stands in a line has a name. -/
theorem Reads.erased_ne_nil {text rest : Text} {tokens own : List Token} {type : TypeReference}
    (reads : Reads text tokens rest) (rule : DerivesType type own) (stands : own ⊆ tokens) :
    type.erased ≠ [] := by
  rcases exists_identifier_of_derivesType rule with ⟨name, others, split⟩
  rcases reads.exists_fits (stands (split ▸ List.mem_cons_self)) with ⟨behind, whole, -⟩
  rw [erased_eq_shownText rule, split, outermost, if_neg (by simp), if_neg (by simp), if_pos rfl,
    shownText_cons, Token.shown_identifier]
  exact List.append_ne_nil_of_left_ne_nil (ne_nil_of_isIdentifier whole) _

/-- An accepted declaration names no superclass, or one with a name. -/
theorem superclass?_ne_nil {line : Text} {declaration : Declaration}
    (accepted : parse line = .ok declaration) : declaration.superclass? ≠ some [] := by
  intro nameless
  rcases parse_eq_ok_iff.mp accepted with ⟨brace, tokens, ⟨-, -, extended, -, -⟩, blanks, -, reads⟩
  unfold superclass? at nameless
  split_ifs at nameless
  rcases Option.map_eq_some_iff.mp nameless with ⟨type, isFirst, erased⟩
  rcases extended.exists_of_mem (List.mem_of_mem_head? isFirst) with ⟨own, rule, inClause⟩
  refine reads.erased_ne_nil rule (fun token member => ?_) erased
  simp [inClause member]

end JarAtlas.Declaration
