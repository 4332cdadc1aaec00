import JarAtlas.Proofs.Declaration.Soundness
import JarAtlas.Proofs.Declaration.Completeness
import JarAtlas.Proofs.Declaration.Denotation

/-!
# The declaration reader is exact

A line is accepted exactly when the grammar derives the terminals that it is cut into. It can be cut
and derived in one way only, and the header that is returned shows these terminals.
-/

namespace JarAtlas.Declaration

theorem Reads.length_le {text rest : Text} {tokens : List Token} (reads : Reads text tokens rest) :
    tokens.length ≤ text.length := by
  induction reads with
  | nil text => simp
  | cons blank fits others ih =>
    rcases fits.exists_visible with ⟨first, more, spelled, -⟩
    simp only [spelled, List.length_append, List.length_cons]
    omega

/-- What stands behind given terminals is determined. -/
theorem Reads.rest_unique {text rest other : Text} {tokens : List Token}
    (first : Reads text tokens rest) (second : Reads text tokens other) : rest = other := by
  induction tokens generalizing text with
  | nil =>
    cases first
    cases second
    rfl
  | cons token tokens ih =>
    rcases first.exists_of_cons with ⟨middle, readsFirst, readsRest⟩
    rcases second.exists_of_cons with ⟨otherMiddle, readsSecond, readsOther⟩
    have same := readsFirst.of_singleton.1.symm.trans readsSecond.of_singleton.1
    rw [List.append_cancel_left same] at readsRest
    exact ih readsRest readsOther

/-- A line is accepted exactly when it is derived, and what it is derived from is returned. -/
theorem parse_eq_ok_iff {line : Text} {declaration : Declaration} :
    parse line = .ok declaration ↔
      ∃ brace tokens, Derives declaration brace tokens ∧ Cut (Text.trim line) tokens := by
  simp only [parse]
  constructor
  · exact exists_derives_of_parseWith
  · rintro ⟨brace, tokens, rule, blanks, blank, reads⟩
    have short := reads.length_le
    exact parseWith_eq_ok rule ⟨blanks, blank, reads⟩ (by omega)

/-- A line is either without a brace at its end or with one. -/
theorem brace_unique {line : Text} {common : List Token} {brace other : Bool}
    (first : Cut line (common ++ braceTokens brace))
    (second : Cut line (common ++ braceTokens other)) : brace = other := by
  have impossible : Cut line (common ++ braceTokens true) → ¬Cut line (common ++ braceTokens false)
      := by
    rintro ⟨rest, -, readsBrace⟩ ⟨blanks, blank, readsCommon⟩
    rw [braceTokens, if_neg (by decide), List.append_nil] at readsCommon
    rcases readsBrace.exists_of_append with ⟨middle, reads, stands⟩
    rw [reads.rest_unique readsCommon] at stands
    have refused : token? ['\x7b'] blanks = none := token?_eq_none_of_blank blank (by decide)
    rw [(token?_eq_some_iff (by decide)).mpr stands] at refused
    contradiction
  cases brace <;> cases other
  · rfl
  · exact absurd first (impossible second)
  · exact absurd second (impossible first)
  · rfl

/-- The texts of a header are the terminals of its parts, as a header shows terminals. -/
structure ShowsTerminals (declaration : Declaration) : Prop where
  modifiers : declaration.modifiers =
    (declaration.writtenModifiers.filter classModifiers.contains).eraseDups
  qualifiedName : ∀ tokens, Separated "." DerivesIdentifier declaration.path tokens →
    declaration.qualifiedName = shownText tokens
  typeParameters : ∀ tokens, DerivesParameters declaration.typeParameters tokens →
    declaration.typeParametersText = shownText tokens
  types : ∀ type ∈ declaration.extended ++ declaration.implemented ++ declaration.permitted,
    ∀ tokens, DerivesType type tokens →
      type.text = shownText tokens ∧ type.erased = shownText (outermost 0 tokens)

theorem showsTerminals (declaration : Declaration) : ShowsTerminals declaration where
  modifiers := modifiers_eq_eraseDups declaration
  qualifiedName _ rule := qualifiedName_eq_shownText rule
  typeParameters _ rule := typeParametersText_eq_shownText rule
  types _ _ _ rule := ⟨text_eq_shownText rule, erased_eq_shownText rule⟩

/-- Reading a declaration is exact: a line is accepted if and only if its terminals are derived,
there is at most one derivation, and the header returned shows the terminals of it. -/
theorem parse_exact (line : Text) :
    (∀ declaration, parse line = .ok declaration ↔
      ∃ brace tokens, Derives declaration brace tokens ∧ Cut (Text.trim line) tokens) ∧
    (∀ declaration other brace otherBrace tokens others,
      Derives declaration brace tokens → Cut (Text.trim line) tokens →
      Derives other otherBrace others → Cut (Text.trim line) others →
        declaration = other ∧ brace = otherBrace ∧ tokens = others) ∧
    ∀ declaration, parse line = .ok declaration → ShowsTerminals declaration := by
  refine ⟨fun declaration => parse_eq_ok_iff, ?_, fun declaration _ => showsTerminals declaration⟩
  intro declaration other brace otherBrace tokens others rule cut otherRule otherCut
  have read := parse_eq_ok_iff.mpr ⟨brace, tokens, rule, cut⟩
  rw [parse_eq_ok_iff.mpr ⟨otherBrace, others, otherRule, otherCut⟩] at read
  cases read
  rcases rule.exists_common otherRule with ⟨common, rfl, rfl⟩
  have sameBrace := brace_unique cut otherCut
  exact ⟨rfl, sameBrace, by rw [sameBrace]⟩

end JarAtlas.Declaration
