import JarAtlas.Proofs.Declaration.Groups
import JarAtlas.Proofs.Declaration.Rereading

/-!
# Generics stay where they are

The type parameters of a class stand in the first group of brackets of its line. Nothing else in the
line depends on them: with a space in the place of the group, the line declares the same class
without type parameters. Type arguments stay inside the groups of a type, so the erased name of a
type is what its text leaves outside groups, and the name of a superclass is made of identifiers, dots and array
brackets.
-/

namespace JarAtlas

namespace Text

/-- Where the first group of brackets stands between two texts, and what replacing it gives. -/
theorem withoutFirstGroup_eq {front inside : Text} (behind : Text) (plain : IsPlain front)
    (passes : Passes inside) :
    (cutGroup 0 ((front ++ '<' :: (inside ++ '>' :: behind)).dropWhile (· ≠ '<'))).1 =
        '<' :: (inside ++ ['>']) ∧
      withoutFirstGroup (front ++ '<' :: (inside ++ '>' :: behind)) = front ++ ' ' :: behind := by
  have before : ∀ character ∈ front, (decide (character ≠ '<')) = true := by
    intro character member
    simpa using (plain character member).1
  have from_ : (front ++ '<' :: (inside ++ '>' :: behind)).dropWhile (· ≠ '<') =
      '<' :: (inside ++ '>' :: behind) := by
    rw [List.dropWhile_append_of_pos before]
    simp
  have until_ : (front ++ '<' :: (inside ++ '>' :: behind)).takeWhile (· ≠ '<') = front := by
    rw [List.takeWhile_append_of_pos before]
    simp
  rw [withoutFirstGroup, from_, until_, passes.cutGroup_eq]
  exact ⟨rfl, rfl⟩

end Text

namespace Declaration

open Text (IsPlain Passes cutGroup withoutFirstGroup withoutGroups)

/-- The text of terminals without brackets holds no bracket. -/
theorem Reads.exists_plain {text rest : Text} {tokens : List Token} (reads : Reads text tokens rest)
    (apart : ∀ token ∈ tokens, token ≠ .symbol "<" ∧ token ≠ .symbol ">") :
    ∃ front, text = front ++ rest ∧ IsPlain front := by
  induction reads with
  | nil text => exact ⟨[], rfl, by simp [IsPlain]⟩
  | @cons blanks behind rest token tokens blank fits others ih =>
    rcases ih fun token member => apart token (List.mem_cons_of_mem _ member) with
      ⟨front, rfl, plainFront⟩
    rcases apart token List.mem_cons_self with ⟨opens, closes⟩
    have plainToken := (fits.isPlain opens closes).1
    exact ⟨blanks ++ token.spelling ++ front, by simp,
      ((isPlain_of_all_isSpace blank).append plainToken).append plainFront⟩

theorem DerivesParameters.exists_bracketed {parameters : List TypeParameter} {tokens : List Token}
    (rule : DerivesParameters parameters tokens) (some : parameters ≠ []) :
    ∃ inside, tokens = .symbol "<" :: (inside ++ [.symbol ">"]) ∧ Balanced inside := by
  cases rule with
  | none => contradiction
  | some rule =>
    exact ⟨_, rfl, (rule.mono fun _ _ derived => derived.balanced).balanced (by decide) (by decide)⟩

theorem not_bracket_of_derivesPath {path : List Text} {tokens : List Token}
    (rule : Separated "." DerivesIdentifier path tokens) :
    ∀ token ∈ tokens, token ≠ .symbol "<" ∧ token ≠ .symbol ">" := by
  induction rule with
  | last rule =>
    cases rule
    simp
  | more rule rules ih =>
    cases rule
    intro token member
    simp only [List.singleton_append, List.mem_cons] at member
    rcases member with rfl | rfl | later
    · simp
    · decide
    · exact ih token later

section Accepted

variable {line : Text} {declaration : Declaration}

/-- White space around a line changes nothing. -/
theorem parse_append_of_blank {front behind : Text}
    (blankFront : ∀ character ∈ front, Text.isBlank character = true)
    (blankBehind : ∀ character ∈ behind, Text.isBlank character = true) :
    parse (front ++ (line ++ behind)) = parse line := by
  simp only [parse, Text.trim_append_of_blank blankFront blankBehind]

/-- The type parameters of an accepted line are a group without brackets in front, and the line with
a space in their place declares the same without them. -/
theorem exists_group_of_parse (accepted : parse line = .ok declaration)
    (generic : declaration.typeParameters ≠ []) :
    ∃ front inside behind tokens, Text.trim line = front ++ '<' :: (inside ++ '>' :: behind) ∧
      IsPlain front ∧ Passes inside ∧ DerivesParameters declaration.typeParameters tokens ∧
      Cut ('<' :: (inside ++ ['>'])) tokens ∧
      parse (front ++ ' ' :: behind) = .ok { declaration with typeParameters := [] } := by
  rcases parse_eq_ok_iff.mp accepted with ⟨brace, tokens, rule, blanks, blank, reads⟩
  cases rule with
  | @mk pathTokens parameterTokens extendsTokens implementsTokens permitsTokens path typeParameters
      extended implemented permitted =>
    rcases typeParameters.exists_bracketed generic with ⟨list, rfl, balanced⟩
    -- The line up to its name, the list of type parameters, and the clauses with the brace.
    rw [← List.cons_append, ← List.append_assoc] at reads
    rcases reads.exists_of_append with ⟨middle, readsHeading, readsOthers⟩
    rcases readsOthers.exists_of_append with ⟨behind, readsList, readsClauses⟩
    rcases readsHeading.exists_front with ⟨front, headed, -, change⟩
    rcases exists_group_of_reads balanced.passes readsList with
      ⟨between, inside, blankBetween, rfl, passes, cut⟩
    refine ⟨front ++ between, inside, behind, _, by simp [headed], ?plain, passes, typeParameters,
      cut, ?bare⟩
    case plain =>
      have heading : ∀ token ∈ declaration.writtenModifiers.map Token.modifier ++
          .kind declaration.kind :: pathTokens, token ≠ .symbol "<" ∧ token ≠ .symbol ">" := by
        intro token member
        simp only [List.mem_append, List.mem_map, List.mem_cons] at member
        rcases member with ⟨word, -, rfl⟩ | rfl | inPath
        · simp
        · simp
        · exact not_bracket_of_derivesPath path token inPath
      rcases readsHeading.exists_plain heading with ⟨same, split, plain⟩
      obtain rfl : same = front := List.append_cancel_right (split.symm.trans headed)
      exact plain.append (isPlain_of_all_isSpace blankBetween)
    case bare =>
      have blankBehindHeading : (between ++ [' ']).all isSpace = true := by
        rw [List.all_append, blankBetween]
        rfl
      have ends : Ends (between ++ [' '] ++ behind) := by
        intro character head
        refine isIdentifierPart_eq_false_of_isBlank
          (isBlank_of_all_isSpace blankBehindHeading character ?_)
        rw [List.head?_append_of_ne_nil _ (by simp)] at head
        exact List.mem_of_mem_head? head
      have covered := Covers.append ⟨_, blankBehindHeading, change _ ends⟩
        (⟨blanks, blank, by simpa using readsClauses⟩ : Covers behind _ [])
      rcases covered with ⟨last, blankLast, readsBare⟩
      have bare : Cut (front ++ between ++ ' ' :: behind) _ :=
        ⟨last, blankLast, by simpa using readsBare⟩
      refine parse_eq_ok_iff.mpr ⟨brace, _, .mk path .none extended implemented permitted, ?_⟩
      simpa using bare.trim

/-- The type parameters of a line are its first group, and without them it declares the same. -/
theorem parse_withoutFirstGroup (accepted : parse line = .ok declaration)
    (generic : declaration.typeParameters ≠ []) :
    (∃ tokens, DerivesParameters declaration.typeParameters tokens ∧
      Cut (cutGroup 0 (line.dropWhile (· ≠ '<'))).1 tokens) ∧
    parse (withoutFirstGroup line) = .ok { declaration with typeParameters := [] } := by
  rcases exists_group_of_parse accepted generic with
    ⟨front, inside, behind, tokens, trimmed, plain, passes, rule, cut, bare⟩
  rcases Text.exists_eq_trim line with ⟨white, others, blankWhite, blankOthers, split⟩
  have whole : line = (white ++ front) ++ '<' :: (inside ++ '>' :: (behind ++ others)) := by
    rw [split, trimmed]
    simp
  have plainFront : IsPlain (white ++ front) := (Text.isPlain_of_isBlank blankWhite).append plain
  have replaced := Text.withoutFirstGroup_eq (behind ++ others) plainFront passes
  rw [← whole] at replaced
  refine ⟨⟨tokens, rule, replaced.1 ▸ cut⟩, ?_⟩
  have around : white ++ front ++ ' ' :: (behind ++ others) =
      white ++ ((front ++ ' ' :: behind) ++ others) := by
    simp
  rw [replaced.2, around, parse_append_of_blank blankWhite blankOthers, bare]

/-- A type of an accepted line is derived from terminals that stand in the line. -/
theorem exists_derives_of_parse (accepted : parse line = .ok declaration) {type : TypeReference}
    (member : type ∈ declaration.extended ++ declaration.implemented ++ declaration.permitted) :
    ∃ own, DerivesType type own ∧ ∀ token ∈ own, ∃ behind, token.Fits behind := by
  rcases parse_eq_ok_iff.mp accepted with
    ⟨brace, tokens, ⟨-, -, extended, implemented, permitted⟩, blanks, -, reads⟩
  rcases List.mem_append.mp member with inFirst | inPermitted
  · rcases List.mem_append.mp inFirst with inExtended | inImplemented
    · rcases extended.exists_of_mem inExtended with ⟨own, rule, stands⟩
      exact ⟨own, rule, fun token isOwn => reads.exists_fits (by simp [stands isOwn])⟩
    · rcases implemented.exists_of_mem inImplemented with ⟨own, rule, stands⟩
      exact ⟨own, rule, fun token isOwn => reads.exists_fits (by simp [stands isOwn])⟩
  · rcases permitted.exists_of_mem inPermitted with ⟨own, rule, stands⟩
    exact ⟨own, rule, fun token isOwn => reads.exists_fits (by simp [stands isOwn])⟩

/-- The erased name of a type is what its text leaves outside groups. -/
theorem erased_eq_withoutGroups {type : TypeReference} {tokens : List Token}
    (rule : DerivesType type tokens) (fit : ∀ token ∈ tokens, ∃ behind, token.Fits behind) :
    type.erased = withoutGroups 0 type.text := by
  have left := (rule.balanced.withoutGroups_shownText fit).2 [] [] rfl
  rw [List.append_nil, List.append_nil] at left
  rw [text_eq_shownText rule, erased_eq_shownText rule, left]

theorem identifier_mem_of_derivesSegment {segment : TypeSegment} {tokens : List Token}
    (rule : DerivesSegment segment tokens) :
    .identifier (TypeReference.segmentName segment) ∈ tokens := by
  cases rule with
  | plain name => exact List.mem_singleton_self _
  | generic name rule => exact List.mem_cons_self

/-- An erased name is made of identifiers, dots and array brackets. -/
theorem of_mem_erased {type : TypeReference} {tokens : List Token} (rule : DerivesType type tokens)
    (fit : ∀ token ∈ tokens, ∃ behind, token.Fits behind) :
    ∀ character ∈ type.erased, isIdentifierPart character = true ∨ character ∈ (".[]" : Text) := by
  intro character member
  cases rule with
  | @mk segments tokens count rule =>
    rcases List.mem_append.mp member with inNames | inBrackets
    · rcases Text.mem_of_mem_join inNames with dot | ⟨name, isName, inName⟩
      · rw [List.mem_singleton.mp dot]
        exact .inr (by decide)
      · rcases List.mem_map.mp isName with ⟨segment, isSegment, rfl⟩
        rcases rule.exists_of_mem isSegment with ⟨own, derived, stands⟩
        rcases fit _ (List.mem_append_left _ (stands (identifier_mem_of_derivesSegment derived)))
          with ⟨behind, whole, -⟩
        exact .inl (isIdentifierPart_of_mem whole inName)
    · rcases List.mem_flatten.mp inBrackets with ⟨pair, isPair, inPair⟩
      rw [List.eq_of_mem_replicate isPair] at inPair
      exact .inr (List.mem_cons_of_mem _ inPair)

/-- The name of a superclass holds no trace of type arguments. -/
theorem superclass?_plain (accepted : parse line = .ok declaration) :
    ∀ superclass ∈ declaration.superclass?, ∀ character ∈ superclass,
      character ∉ ("<>?," : Text) ∧ Text.isBlank character = false := by
  intro superclass isSuperclass character member
  unfold superclass? at isSuperclass
  split_ifs at isSuperclass
  · contradiction
  · rcases Option.map_eq_some_iff.mp isSuperclass with ⟨type, isFirst, rfl⟩
    have listed : type ∈ declaration.extended ++ declaration.implemented ++ declaration.permitted := by
      simp [List.mem_of_mem_head? isFirst]
    rcases exists_derives_of_parse accepted listed with ⟨own, rule, fit⟩
    rcases of_mem_erased rule fit character member with part | separator
    · refine ⟨?_, isBlank_eq_false_of_isIdentifierPart part⟩
      intro trace
      have foreign : (("<>?," : Text).all fun other => !isIdentifierPart other) = true := by
        decide +kernel
      have notPart := List.all_eq_true.mp foreign character trace
      simp [part] at notPart
    · have apart : ((".[]" : Text).all fun other =>
          !("<>?," : Text).contains other && !Text.isBlank other) = true := by
        decide
      simpa using List.all_eq_true.mp apart character separator

/-- Type parameters and type arguments stay apart from the names. The type parameters of an accepted
line are its first group of brackets, and with a space in its place the line declares the same
without them. The erased name of every type is its text without groups, so no trace of them is in
the name of a superclass; an interface has none, and extends its interfaces. -/
theorem generics_of_parse (accepted : parse line = .ok declaration) :
    (declaration.typeParameters ≠ [] →
      (∃ tokens, DerivesParameters declaration.typeParameters tokens ∧
        Cut (cutGroup 0 (line.dropWhile (· ≠ '<'))).1 tokens) ∧
      parse (withoutFirstGroup line) = .ok { declaration with typeParameters := [] }) ∧
    (∀ type ∈ declaration.extended ++ declaration.implemented ++ declaration.permitted,
      type.erased = withoutGroups 0 type.text) ∧
    (∀ superclass ∈ declaration.superclass?, ∀ character ∈ superclass,
      character ∉ ("<>?," : Text) ∧ Text.isBlank character = false) ∧
    (declaration.kind = .interface ∨ declaration.kind = ClassKind.annotation →
      declaration.superclass? = none ∧
        declaration.interfaces = declaration.extended.map TypeReference.text) := by
  refine ⟨parse_withoutFirstGroup accepted, ?_, superclass?_plain accepted, ?_⟩
  · intro type member
    rcases exists_derives_of_parse accepted member with ⟨own, rule, fit⟩
    exact erased_eq_withoutGroups rule fit
  · intro kind
    have isInterface : declaration.kind.isInterface = true := by
      rcases kind with kind | kind <;> simp [kind, ClassKind.isInterface]
    simp [superclass?, interfaces, isInterface]

end Accepted

/-- A declaration with bounds next to its superclass. -/
def flowLine : Text :=
  "class a.Sink<T extends b.Num<?,T[]>&c.D,U>extends b.Flow<? super T>.Part implements c.E<U>\x7b"

/-- The bounds are not taken for the superclass, and they may be left out. -/
theorem generics_of_flow :
    ∃ declaration, parse flowLine = .ok declaration ∧ declaration.typeParameters ≠ [] ∧
      declaration.superclass? = some "b.Flow.Part" ∧
      Text.withoutFirstGroup flowLine =
        ("class a.Sink extends b.Flow<? super T>.Part implements c.E<U>\x7b" : Text) ∧
      parse (Text.withoutFirstGroup flowLine) = .ok { declaration with typeParameters := [] } ∧
      ∀ type ∈ declaration.extended, type.erased = withoutGroups 0 type.text := by
  have read : (parse flowLine).toOption.map
      (fun declaration => (declaration.typeParameters.isEmpty, declaration.superclass?)) =
        some (false, some ("b.Flow.Part" : Text)) := by
    decide +kernel
  rcases Option.map_eq_some_iff.mp read with ⟨declaration, isRead, shown⟩
  rcases Prod.mk.inj shown with ⟨generic, superclass⟩
  have accepted := parse_eq_ok_of_toOption isRead
  rcases generics_of_parse accepted with ⟨bare, erased, -, -⟩
  have some : declaration.typeParameters ≠ [] := by simpa using generic
  refine ⟨declaration, accepted, some, superclass, by decide +kernel, (bare some).2, ?_⟩
  intro type member
  exact erased type (by simp [member])

end Declaration

end JarAtlas
