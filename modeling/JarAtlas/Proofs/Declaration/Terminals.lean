import JarAtlas.Proofs.Declaration.Grammar
import Mathlib.Tactic.Common

/-!
# Reading terminals

What the readers of a single terminal do, in terms of `Reads`: a fixed terminal or an identifier is
read exactly where it stands, and a fixed terminal is refused where a terminal with another first
character stands or no terminal at all.
-/

namespace JarAtlas.Declaration

theorem skipSpace_append {blanks : Text} (rest : Text) (blank : blanks.all isSpace = true) :
    skipSpace (blanks ++ rest) = skipSpace rest := by
  induction blanks with
  | nil => rfl
  | cons character blanks ih =>
    simp only [List.all_cons, Bool.and_eq_true] at blank
    simpa [skipSpace, List.dropWhile_cons, blank.1] using ih blank.2

theorem skipSpace_cons {character : Char} (rest : Text) (visible : isSpace character = false) :
    skipSpace (character :: rest) = character :: rest := by
  simp [skipSpace, visible]

/-- Every text is blanks and the text from its next terminal. -/
theorem exists_eq_append_skipSpace (text : Text) :
    ∃ blanks, blanks.all isSpace = true ∧ text = blanks ++ skipSpace text := by
  refine ⟨text.takeWhile isSpace, ?_, (List.takeWhile_append_dropWhile).symm⟩
  simp

theorem isSpace_eq_false_of_isIdentifierStart {character : Char}
    (start : isIdentifierStart character = true) : isSpace character = false := by
  by_contra space
  simp only [Bool.not_eq_false, isSpace, Bool.or_eq_true, beq_iff_eq] at space
  rcases space with (((rfl | rfl) | rfl) | rfl) | code
  · simp [isIdentifierStart] at start
  · simp [isIdentifierStart] at start
  · simp [isIdentifierStart] at start
  · simp [isIdentifierStart] at start
  · have same : character = Char.ofNat 12 := by
      rw [← code, Char.ofNat_toNat]
    subst same
    simp [isIdentifierStart] at start

namespace Token

theorem exists_visible_of_mem_symbols {spelling : Text} (known : spelling ∈ symbols) :
    ∃ first others, spelling = first :: others ∧ isSpace first = false := by
  simp only [symbols, List.mem_cons, List.not_mem_nil, or_false] at known
  rcases known with rfl | rfl | rfl | rfl | rfl | rfl | rfl | rfl | rfl | rfl | rfl | rfl
  all_goals exact ⟨_, _, rfl, by decide⟩

/-- No terminal is empty or begins with a blank. -/
theorem Fits.exists_visible {token : Token} {behind : Text} (fits : token.Fits behind) :
    ∃ first others, token.spelling = first :: others ∧ isSpace first = false := by
  cases token with
  | modifier word =>
    simp only [Fits, declarationModifiers, classModifiers, List.cons_append, List.nil_append,
      List.mem_cons, List.not_mem_nil, or_false] at fits
    rcases fits with rfl | rfl | rfl | rfl | rfl | rfl | rfl | rfl | rfl
    all_goals exact ⟨_, _, rfl, by decide⟩
  | kind declared => cases declared <;> exact ⟨_, _, rfl, by decide⟩
  | identifier name =>
    rcases fits with ⟨whole, -⟩
    cases name with
    | nil => simp [isIdentifier] at whole
    | cons first others =>
      simp only [isIdentifier, Bool.and_eq_true] at whole
      exact ⟨first, others, rfl, isSpace_eq_false_of_isIdentifierStart whole.1⟩
  | symbol text => exact exists_visible_of_mem_symbols fits

end Token

namespace Reads

theorem append {text middle rest : Text} {left right : List Token} (first : Reads text left middle)
    (second : Reads middle right rest) : Reads text (left ++ right) rest := by
  induction first with
  | nil text => exact second
  | cons blank fits others ih => exact .cons blank fits (ih second)

theorem exists_of_append {text rest : Text} {left right : List Token}
    (reads : Reads text (left ++ right) rest) :
    ∃ middle, Reads text left middle ∧ Reads middle right rest := by
  induction left generalizing text with
  | nil => exact ⟨text, .nil text, reads⟩
  | cons token left ih =>
    cases reads with
    | cons blank fits others =>
      rcases ih others with ⟨middle, first, second⟩
      exact ⟨middle, .cons blank fits first, second⟩

/-- The first of several terminals, and what it leaves to the others. -/
theorem exists_of_cons {text rest : Text} {token : Token} {tokens : List Token}
    (reads : Reads text (token :: tokens) rest) :
    ∃ middle, Reads text [token] middle ∧ Reads middle tokens rest :=
  exists_of_append (reads : Reads text ([token] ++ tokens) rest)

theorem of_singleton {text rest : Text} {token : Token} (reads : Reads text [token] rest) :
    skipSpace text = token.spelling ++ rest ∧ token.Fits rest := by
  cases reads with
  | cons blank fits others =>
    cases others
    rcases fits.exists_visible with ⟨first, others, spelled, visible⟩
    rw [List.append_assoc, skipSpace_append _ blank, spelled]
    exact ⟨skipSpace_cons _ visible, fits⟩

theorem singleton {text rest : Text} {token : Token}
    (stands : skipSpace text = token.spelling ++ rest) (fits : token.Fits rest) :
    Reads text [token] rest := by
  rcases exists_eq_append_skipSpace text with ⟨blanks, blank, same⟩
  rw [same, stands, ← List.append_assoc]
  exact .cons blank fits (.nil rest)

end Reads

/-- A fixed terminal is passed exactly where it stands. -/
theorem token?_eq_some_iff {spelling text rest : Text} (known : spelling ∈ symbols) :
    token? spelling text = some rest ↔ Reads text [.symbol spelling] rest := by
  rw [token?, Text.after?_eq_some_iff]
  exact ⟨fun stands => Reads.singleton stands known, fun reads => reads.of_singleton.1⟩

/-- An identifier is read exactly where it stands, with all the characters that it can have. -/
theorem identifier_eq_ok_iff {text name rest : Text} :
    identifier text = .ok (name, rest) ↔ Reads text [.identifier name] rest := by
  constructor
  · intro read
    unfold identifier at read
    split at read
    · contradiction
    · rename_i first others stands
      split at read
      · rename_i start
        simp only [Except.ok.injEq, Prod.mk.injEq] at read
        rcases read with ⟨rfl, rfl⟩
        apply Reads.singleton
        · simpa [Token.spelling] using stands
        · refine ⟨by simp [isIdentifier, start], ?_⟩
          intro character head
          have stops := List.head?_dropWhile_not isIdentifierPart others
          rw [Option.mem_def.mp head] at stops
          exact stops
      · contradiction
  · intro reads
    rcases reads.of_singleton with ⟨stands, whole, stops⟩
    cases name with
    | nil => simp [isIdentifier] at whole
    | cons first others =>
      simp only [isIdentifier, Bool.and_eq_true] at whole
      have taken : (others ++ rest).takeWhile isIdentifierPart = others := by
        rw [List.takeWhile_append_of_pos (List.all_eq_true.mp whole.2)]
        cases rest with
        | nil => simp
        | cons character rest => simp [stops character rfl]
      have left : (others ++ rest).dropWhile isIdentifierPart = rest := by
        rw [List.dropWhile_append_of_pos (List.all_eq_true.mp whole.2)]
        cases rest with
        | nil => rfl
        | cons character rest => simp [stops character rfl]
      unfold identifier
      rw [stands]
      simp [Token.spelling, whole.1, taken, left]

/-- A fixed terminal is refused where another terminal stands. -/
theorem token?_eq_none_of_reads {spelling text rest : Text} {token : Token} {tokens : List Token}
    (reads : Reads text (token :: tokens) rest) (nonempty : spelling ≠ [])
    (differs : spelling.head? ≠ token.spelling.head?) : token? spelling text = none := by
  rcases reads.exists_of_cons with ⟨middle, first, -⟩
  rcases first.of_singleton with ⟨stands, fits⟩
  rcases fits.exists_visible with ⟨character, others, spelled, -⟩
  rw [spelled] at stands differs
  cases spelling with
  | nil => exact absurd rfl nonempty
  | cons expected more =>
    simp only [List.head?_cons, ne_eq, Option.some.injEq] at differs
    simp [token?, stands, Text.after?, differs]

/-- A fixed terminal is refused where only blanks are left. -/
theorem token?_eq_none_of_blank {spelling text : Text} (blank : text.all isSpace = true)
    (nonempty : spelling ≠ []) : token? spelling text = none := by
  have nothing : skipSpace text = [] := by
    simpa [skipSpace] using skipSpace_append [] blank
  cases spelling with
  | nil => exact absurd rfl nonempty
  | cons expected more => simp [token?, nothing, Text.after?]

end JarAtlas.Declaration
