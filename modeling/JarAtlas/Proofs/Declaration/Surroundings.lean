import JarAtlas.Proofs.Declaration.Printing
import JarAtlas.Proofs.Declaration.QualifiedName
import JarAtlas.Proofs.Text.Trimming

/-!
# What stands around terminals

A line stays cut into its terminals when what stands around them changes. No terminal holds white
space, so the white space at both ends may go; and the text behind the last terminal may be any
other that ends an identifier.
-/

namespace JarAtlas.Declaration

theorem isBlank_of_isSpace {character : Char} (space : isSpace character = true) :
    Text.isBlank character = true := by
  simp only [isSpace, Bool.or_eq_true, beq_iff_eq] at space
  rcases space with (((rfl | rfl) | rfl) | rfl) | code
  case inr => simp [Text.isBlank, code]
  all_goals decide

theorem isBlank_of_all_isSpace {blanks : Text} (blank : blanks.all isSpace = true) :
    ∀ character ∈ blanks, Text.isBlank character = true := by
  intro character member
  exact isBlank_of_isSpace (List.all_eq_true.mp blank character member)

/-- The spellings of all terminals but the identifiers. -/
def fixedSpellings : List Text :=
  declarationModifiers ++ ClassKind.all.map ClassKind.keyword ++ symbols

theorem isBlank_eq_false_of_mem_fixedSpellings : ∀ spelling ∈ fixedSpellings,
    ∀ character ∈ spelling, Text.isBlank character = false := by
  have unbroken : (fixedSpellings.all fun spelling =>
      spelling.all fun character => !Text.isBlank character) = true := by
    decide
  simpa using unbroken

/-- No white space stands in a terminal. -/
theorem Token.Fits.isBlank_eq_false {token : Token} {behind : Text} (fits : token.Fits behind) :
    ∀ character ∈ token.spelling, Text.isBlank character = false := by
  cases token with
  | modifier word =>
    exact isBlank_eq_false_of_mem_fixedSpellings word
      (List.mem_append_left _ (List.mem_append_left _ fits))
  | kind declared =>
    exact isBlank_eq_false_of_mem_fixedSpellings declared.keyword (List.mem_append_left _
      (List.mem_append_right _ (List.mem_map_of_mem (mem_all declared))))
  | identifier name =>
    intro character member
    exact isBlank_eq_false_of_isIdentifierPart (isIdentifierPart_of_mem fits.1 member)
  | symbol spelling =>
    exact isBlank_eq_false_of_mem_fixedSpellings spelling (List.mem_append_right _ fits)

/-- A terminal that stands in front of a text stands in front of any other that begins alike, or that
ends an identifier. -/
theorem Token.Fits.change {token : Token} {behind other : Text} (fits : token.Fits behind)
    (ends : behind.head? = other.head? ∨ Ends other) : token.Fits other := by
  cases token with
  | identifier name =>
    refine ⟨fits.1, ?_⟩
    rcases ends with same | ends
    · exact same ▸ fits.2
    · exact ends
  | modifier word => exact fits
  | kind declared => exact fits
  | symbol spelling => exact fits

namespace Reads

variable {text rest : Text} {tokens : List Token}

theorem eq_of_nil (reads : Reads text [] rest) : text = rest := by
  cases reads
  rfl

/-- The text behind terminals may be any other that ends an identifier. -/
theorem exists_front (reads : Reads text tokens rest) :
    ∃ front, text = front ++ rest ∧
      (tokens ≠ [] → ∃ last ∈ front.getLast?, Text.isBlank last = false) ∧
      ∀ other, Ends other → Reads (front ++ other) tokens other := by
  induction reads with
  | nil text => exact ⟨[], rfl, fun none => absurd rfl none, fun other _ => .nil other⟩
  | @cons blanks behind rest token tokens blank fits others ih =>
    rcases ih with ⟨front, rfl, visible, change⟩
    refine ⟨blanks ++ token.spelling ++ front, by simp, fun _ => ?_, ?_⟩
    · by_cases alone : tokens = []
      · subst alone
        have nothing : front = [] := by simpa using others.eq_of_nil
        rcases fits.exists_visible with ⟨first, more, spelled, -⟩
        have nonempty : token.spelling ≠ [] := by simp [spelled]
        refine ⟨_, ?_, fits.isBlank_eq_false _ (List.getLast_mem nonempty)⟩
        simp [nothing, List.getLast?_append, List.getLast?_eq_some_getLast nonempty]
      · rcases visible alone with ⟨last, isLast, isVisible⟩
        refine ⟨last, ?_, isVisible⟩
        simp [List.getLast?_append, Option.mem_def.mp isLast]
    · intro other ends
      rw [List.append_assoc]
      refine .cons blank (fits.change ?_) (change other ends)
      cases front with
      | nil => exact .inr ends
      | cons first front => exact .inl rfl

/-- White space in front of terminals may go. -/
theorem trimStart {token : Token} (reads : Reads text (token :: tokens) rest) :
    Reads (Text.trimStart text) (token :: tokens) rest := by
  cases reads with
  | @cons blanks behind _ _ _ blank fits others =>
    rcases fits.exists_visible with ⟨first, more, spelled, -⟩
    have visible : Text.isBlank first = false := fits.isBlank_eq_false first (by simp [spelled])
    have skipped : Text.trimStart (blanks ++ token.spelling ++ behind) =
        [] ++ token.spelling ++ behind := by
      rw [List.append_assoc, Text.trimStart,
        List.dropWhile_append_of_pos (isBlank_of_all_isSpace blank)]
      simp [spelled, visible]
    rw [skipped]
    exact .cons rfl fits others

end Reads

/-- White space around a line is no part of its terminals. -/
theorem Cut.trim {text : Text} {tokens : List Token} (cut : Cut text tokens) :
    Cut (Text.trim text) tokens := by
  rcases cut with ⟨blanks, blank, reads⟩
  have white := isBlank_of_all_isSpace blank
  cases tokens with
  | nil =>
    cases reads
    rw [Text.trim_eq_nil_iff.mpr white]
    exact ⟨[], rfl, .nil []⟩
  | cons token tokens =>
    rcases reads.trimStart.exists_front with ⟨front, split, visible, change⟩
    refine ⟨[], rfl, ?_⟩
    have trimmed : Text.trim text = front := by
      rcases visible (List.cons_ne_nil _ _) with ⟨last, isLast, isVisible⟩
      rcases List.getLast?_eq_some_iff.mp isLast with ⟨before, rfl⟩
      rw [Text.trim, split, List.append_assoc, List.singleton_append,
        Text.trimEnd_append_cons _ _ isVisible, Text.trimEnd_eq_nil_iff.mpr white]
    rw [trimmed]
    simpa using change [] ends_nil

end JarAtlas.Declaration
