import JarAtlas.Proofs.Declaration.Terminals

/-!
# Soundness of the declaration reader

Every reader returns a tree that the grammar derives from the terminals it has passed. The readers
of types call each other with less fuel each time, so one induction on the fuel covers them all;
the reader of separated lists is treated once, for any reader of items that is sound.
-/

namespace JarAtlas.Declaration

/-- A computation that succeeds has passed each of its steps. -/
theorem exists_ok_of_bind {Failure First Second : Type} {first : Except Failure First}
    {next : First → Except Failure Second} {result : Second}
    (success : (first >>= next) = .ok result) :
    ∃ value, first = .ok value ∧ next value = .ok result := by
  cases first with
  | error failure => exact absurd success (by simp [bind, Except.bind])
  | ok value => exact ⟨value, rfl, success⟩

/-- A reader returns only what `Rule` derives from the terminals that it passes. -/
def SoundReader {Item : Type} (Rule : Item → List Token → Prop)
    (read : Text → Except Refusal (Item × Text)) : Prop :=
  ∀ {text rest : Text} {item : Item}, read text = .ok (item, rest) →
    ∃ tokens, Rule item tokens ∧ Reads text tokens rest

theorem soundReader_identifier : SoundReader DerivesIdentifier identifier := by
  intro text rest name read
  exact ⟨[.identifier name], .mk name, identifier_eq_ok_iff.mp read⟩

theorem reads_of_expect {spelling text rest : Text} (known : spelling ∈ symbols)
    (passed : expect spelling text = .ok rest) : Reads text [.symbol spelling] rest := by
  unfold expect at passed
  split at passed
  · rename_i behind stands
    cases passed
    exact (token?_eq_some_iff known).mp stands
  · contradiction

theorem soundReader_separated {Item : Type} {Rule : Item → List Token → Prop}
    {read : Text → Except Refusal (Item × Text)} {separator : Text} (known : separator ∈ symbols)
    (sound : SoundReader Rule read) (fuel : Nat) :
    SoundReader (Separated separator Rule) (separated separator read fuel) := by
  induction fuel with
  | zero =>
    intro text rest items done
    simp [separated] at done
  | succ fuel ih =>
    intro text rest items done
    unfold separated at done
    rcases exists_ok_of_bind done with ⟨⟨item, behind⟩, itemRead, done⟩
    rcases sound itemRead with ⟨tokens, rule, reads⟩
    dsimp only at done
    split at done
    · cases done
      exact ⟨tokens, .last rule, reads⟩
    · rename_i next stands
      rcases exists_ok_of_bind done with ⟨⟨items, rest⟩, itemsRead, done⟩
      cases done
      rcases ih itemsRead with ⟨others, rules, readsOthers⟩
      have between := (token?_eq_some_iff known).mp stands
      exact ⟨_, .more rule rules, reads.append (between.append readsOthers)⟩

theorem reads_of_dimensions {fuel count : Nat} {text rest : Text}
    (done : dimensions fuel text = (count, rest)) :
    Reads text (List.replicate count (.symbol "[]")) rest := by
  induction fuel generalizing text count with
  | zero =>
    cases done
    exact .nil _
  | succ fuel ih =>
    unfold dimensions at done
    split at done
    · cases done
      exact .nil _
    · rename_i behind stands
      cases done
      exact ((token?_eq_some_iff (by decide)).mp stands).append (ih rfl)

theorem soundReader_typeReference_succ {fuel : Nat}
    (soundSegment : SoundReader DerivesSegment (typeSegment fuel)) :
    SoundReader DerivesType (typeReference (fuel + 1)) := by
  intro text rest type done
  unfold typeReference at done
  rcases exists_ok_of_bind done with ⟨⟨segments, behind⟩, segmentsRead, done⟩
  rcases soundReader_separated (by decide) soundSegment fuel segmentsRead with
    ⟨tokens, rule, reads⟩
  cases done
  exact ⟨_, .mk _ rule, reads.append (reads_of_dimensions rfl)⟩

theorem soundReader_typeSegment_succ {fuel : Nat}
    (soundArgument : SoundReader DerivesArgument (typeArgument fuel)) :
    SoundReader DerivesSegment (typeSegment (fuel + 1)) := by
  intro text rest segment done
  unfold typeSegment at done
  rcases exists_ok_of_bind done with ⟨⟨name, behind⟩, nameRead, done⟩
  have readsName := identifier_eq_ok_iff.mp nameRead
  dsimp only at done
  split at done
  · cases done
    exact ⟨_, .plain name, readsName⟩
  · rename_i inside opens
    rcases exists_ok_of_bind done with ⟨⟨arguments, behind⟩, argumentsRead, done⟩
    rcases soundReader_separated (by decide) soundArgument fuel argumentsRead with
      ⟨tokens, rule, reads⟩
    rcases exists_ok_of_bind done with ⟨outside, closed, done⟩
    cases done
    have readsOpening := (token?_eq_some_iff (by decide)).mp opens
    have readsClosing := reads_of_expect (by decide) closed
    exact ⟨_, .generic name rule,
      readsName.append (readsOpening.append (reads.append readsClosing))⟩

theorem soundReader_typeArgument_succ {fuel : Nat}
    (soundType : SoundReader DerivesType (typeReference fuel)) :
    SoundReader DerivesArgument (typeArgument (fuel + 1)) := by
  intro text rest argument done
  unfold typeArgument at done
  split at done
  · rcases exists_ok_of_bind done with ⟨⟨type, behind⟩, typeRead, done⟩
    cases done
    rcases soundType typeRead with ⟨tokens, rule, reads⟩
    exact ⟨tokens, .exactly rule, reads⟩
  · rename_i behind mark
    have readsMark := (token?_eq_some_iff (by decide)).mp mark
    split at done
    · rename_i inner keyword
      have readsKeyword := (token?_eq_some_iff (by decide)).mp keyword
      rcases exists_ok_of_bind done with ⟨⟨bound, behind⟩, boundRead, done⟩
      cases done
      rcases soundType boundRead with ⟨tokens, rule, reads⟩
      exact ⟨_, .extending rule, readsMark.append (readsKeyword.append reads)⟩
    · split at done
      · rename_i inner keyword
        have readsKeyword := (token?_eq_some_iff (by decide)).mp keyword
        rcases exists_ok_of_bind done with ⟨⟨bound, behind⟩, boundRead, done⟩
        cases done
        rcases soundType boundRead with ⟨tokens, rule, reads⟩
        exact ⟨_, .above rule, readsMark.append (readsKeyword.append reads)⟩
      · cases done
        exact ⟨_, .unbounded, readsMark⟩

/-- The readers of types are sound with any fuel. -/
theorem soundReader_types (fuel : Nat) :
    SoundReader DerivesType (typeReference fuel) ∧ SoundReader DerivesSegment (typeSegment fuel) ∧
      SoundReader DerivesArgument (typeArgument fuel) := by
  induction fuel with
  | zero =>
    refine ⟨?_, ?_, ?_⟩
    · intro text rest item done
      simp [typeReference] at done
    · intro text rest item done
      simp [typeSegment] at done
    · intro text rest item done
      simp [typeArgument] at done
  | succ fuel ih =>
    rcases ih with ⟨soundType, soundSegment, soundArgument⟩
    exact ⟨soundReader_typeReference_succ soundSegment, soundReader_typeSegment_succ soundArgument,
      soundReader_typeArgument_succ soundType⟩

theorem soundReader_typeReference (fuel : Nat) : SoundReader DerivesType (typeReference fuel) :=
  (soundReader_types fuel).1

theorem soundReader_typeParameter (fuel : Nat) :
    SoundReader DerivesParameter (typeParameter fuel) := by
  intro text rest parameter done
  unfold typeParameter at done
  rcases exists_ok_of_bind done with ⟨⟨name, behind⟩, nameRead, done⟩
  have readsName := identifier_eq_ok_iff.mp nameRead
  dsimp only at done
  split at done
  · cases done
    exact ⟨_, .unbounded name, readsName⟩
  · rename_i inner keyword
    rcases exists_ok_of_bind done with ⟨⟨bounds, behind⟩, boundsRead, done⟩
    cases done
    rcases soundReader_separated (by decide) (soundReader_typeReference fuel) fuel boundsRead with
      ⟨tokens, rule, reads⟩
    have readsKeyword := (token?_eq_some_iff (by decide)).mp keyword
    exact ⟨_, .bounded name rule, readsName.append (readsKeyword.append reads)⟩

theorem soundReader_typeParametersAt (fuel : Nat) :
    SoundReader DerivesParameters (typeParametersAt fuel) := by
  intro text rest parameters done
  unfold typeParametersAt at done
  split at done
  · cases done
    exact ⟨[], .none, .nil text⟩
  · rename_i inside opens
    rcases exists_ok_of_bind done with ⟨⟨parameters, behind⟩, parametersRead, done⟩
    rcases exists_ok_of_bind done with ⟨outside, closed, done⟩
    cases done
    rcases soundReader_separated (by decide) (soundReader_typeParameter fuel) fuel
      parametersRead with ⟨tokens, rule, reads⟩
    have readsOpening := (token?_eq_some_iff (by decide)).mp opens
    have readsClosing := reads_of_expect (by decide) closed
    exact ⟨_, .some rule, readsOpening.append (reads.append readsClosing)⟩

theorem soundReader_clauseAt {keyword : Text} (known : keyword ∈ symbols) (fuel : Nat) :
    SoundReader (DerivesClause keyword) (clauseAt keyword fuel) := by
  intro text rest types done
  unfold clauseAt at done
  split at done
  · cases done
    exact ⟨[], .none, .nil text⟩
  · rename_i behind stands
    rcases soundReader_separated (by decide) (soundReader_typeReference fuel) fuel done with
      ⟨tokens, rule, reads⟩
    exact ⟨_, .some rule, ((token?_eq_some_iff known).mp stands).append reads⟩

theorem reads_of_writtenModifiersAt {fuel : Nat} {text rest : Text} {words : List Text}
    (done : writtenModifiersAt fuel text = (words, rest)) :
    Reads text (words.map .modifier) rest := by
  induction fuel generalizing text words with
  | zero =>
    cases done
    exact .nil _
  | succ fuel ih =>
    unfold writtenModifiersAt at done
    split at done
    · cases done
      exact .nil _
    · rename_i word behind found
      cases done
      rcases List.exists_of_findSome?_eq_some found with ⟨candidate, known, passed⟩
      rcases Option.map_eq_some_iff.mp passed with ⟨left, stands, same⟩
      cases same
      have readsWord : Reads text [.modifier word] behind :=
        .singleton (Text.eq_append_of_after? stands) known
      exact readsWord.append (ih rfl)

theorem reads_of_kindAt {text rest : Text} {declared : ClassKind}
    (done : kindAt text = .ok (declared, rest)) : Reads text [.kind declared] rest := by
  unfold kindAt at done
  split at done
  · rename_i found search
    cases done
    rcases List.exists_of_findSome?_eq_some search with ⟨candidate, -, passed⟩
    rcases Option.map_eq_some_iff.mp passed with ⟨left, stands, same⟩
    cases same
    exact .singleton (Text.eq_append_of_after? stands) trivial
  · contradiction

/-- What stands behind the clauses is an opening brace or nothing, and blanks. -/
theorem exists_cut_braceTokens {text : Text}
    (finished : (skipSpace ((token? ['\x7b'] text).getD text)).isEmpty = true) :
    ∃ brace, Cut text (braceTokens brace) := by
  cases stands : token? ['\x7b'] text with
  | none =>
    rw [stands, Option.getD_none, List.isEmpty_iff] at finished
    rcases exists_eq_append_skipSpace text with ⟨blanks, blank, same⟩
    rw [finished, List.append_nil] at same
    exact ⟨false, text, same ▸ blank, .nil text⟩
  | some rest =>
    rw [stands, Option.getD_some, List.isEmpty_iff] at finished
    rcases exists_eq_append_skipSpace rest with ⟨blanks, blank, same⟩
    rw [finished, List.append_nil] at same
    exact ⟨true, rest, same ▸ blank, (token?_eq_some_iff (by decide)).mp stands⟩

/-- A declaration that is read is derived from the terminals of its line. -/
theorem exists_derives_of_parseWith {fuel : Nat} {text : Text} {declaration : Declaration}
    (done : parseWith fuel text = .ok declaration) :
    ∃ brace tokens, Derives declaration brace tokens ∧ Cut text tokens := by
  unfold parseWith at done
  have readsModifiers : Reads text ((writtenModifiersAt fuel text).1.map .modifier)
      (writtenModifiersAt fuel text).2 := reads_of_writtenModifiersAt rfl
  rcases exists_ok_of_bind done with ⟨⟨declared, behindKind⟩, kindRead, done⟩
  have readsKind := reads_of_kindAt kindRead
  rcases exists_ok_of_bind done with ⟨⟨path, behindPath⟩, pathRead, done⟩
  rcases soundReader_separated (by decide) soundReader_identifier fuel pathRead with
    ⟨pathTokens, pathRule, readsPath⟩
  rcases exists_ok_of_bind done with ⟨⟨typeParameters, behindParameters⟩, parametersRead, done⟩
  rcases soundReader_typeParametersAt fuel parametersRead with
    ⟨parameterTokens, parametersRule, readsParameters⟩
  rcases exists_ok_of_bind done with ⟨⟨extended, behindExtended⟩, extendedRead, done⟩
  rcases soundReader_clauseAt (by decide) fuel extendedRead with
    ⟨extendsTokens, extendedRule, readsExtended⟩
  rcases exists_ok_of_bind done with ⟨⟨implemented, behindImplemented⟩, implementedRead, done⟩
  rcases soundReader_clauseAt (by decide) fuel implementedRead with
    ⟨implementsTokens, implementedRule, readsImplemented⟩
  rcases exists_ok_of_bind done with ⟨⟨permitted, behindPermitted⟩, permittedRead, done⟩
  rcases soundReader_clauseAt (by decide) fuel permittedRead with
    ⟨permitsTokens, permittedRule, readsPermitted⟩
  dsimp only at done
  split at done
  · rename_i finished
    cases done
    rcases exists_cut_braceTokens finished with ⟨brace, blanks, blank, readsBrace⟩
    refine ⟨brace, _, .mk pathRule parametersRule extendedRule implementedRule permittedRule,
      blanks, blank, ?_⟩
    exact readsModifiers.append (readsKind.append (readsPath.append (readsParameters.append
      (readsExtended.append (readsImplemented.append (readsPermitted.append readsBrace))))))
  · contradiction

end JarAtlas.Declaration
