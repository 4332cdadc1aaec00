import JarAtlas.Proofs.Declaration.Terminals

/-!
# Completeness of the declaration reader

Whatever the grammar derives, the readers return. A reader stops where the text goes on with none of
the terminals that would lengthen its item, so each statement lists these terminals and asks that
the rest of the text is quiet about them. The fuel that a reader needs is bounded by the number of
terminals: an item of a nested list is shorter than the list by its own brackets and name, which
outweighs the three calls from one type to the next.
-/

namespace JarAtlas.Declaration

/-- None of the terminals comes next. -/
def Quiet (spellings : List Text) (text : Text) : Prop :=
  ∀ spelling ∈ spellings, token? spelling text = none

/-- The terminals that would lengthen a type. -/
def typeEnds : List Text := [".", "<", "[]"]

/-- The terminals that would lengthen a type argument. -/
def argumentEnds : List Text := [".", "<", "[]", "extends", "super"]

theorem Quiet.mono {some others : List Text} {text : Text} (quiet : Quiet others text)
    (subset : some ⊆ others) : Quiet some text :=
  fun spelling member => quiet spelling (subset member)

theorem quiet_of_blank {spellings : List Text} {text : Text} (blank : text.all isSpace = true)
    (nonempty : ∀ spelling ∈ spellings, spelling ≠ []) : Quiet spellings text :=
  fun spelling member => token?_eq_none_of_blank blank (nonempty spelling member)

/-- Terminals in front of a text keep it quiet if the first of them is another one. -/
theorem Quiet.of_reads {spellings : List Text} {text rest : Text} {tokens : List Token}
    (quiet : Quiet spellings rest) (reads : Reads text tokens rest)
    (differs : ∀ token ∈ tokens.head?, ∀ spelling ∈ spellings,
      spelling ≠ [] ∧ spelling.head? ≠ token.spelling.head?) :
    Quiet spellings text := by
  cases tokens with
  | nil =>
    cases reads
    exact quiet
  | cons token tokens =>
    intro spelling member
    rcases differs token rfl spelling member with ⟨nonempty, first⟩
    exact token?_eq_none_of_reads reads nonempty first

/-- A reader returns whatever `Rule` derives from at most `bound` terminals, where the text behind
them is quiet. -/
def CompleteReader {Item : Type} (bound : Nat) (ends : List Text) (Rule : Item → List Token → Prop)
    (read : Text → Except Refusal (Item × Text)) : Prop :=
  ∀ {text rest : Text} {item : Item} {tokens : List Token}, Rule item tokens →
    tokens.length ≤ bound → Reads text tokens rest → Quiet ends rest →
    read text = .ok (item, rest)

theorem completeReader_identifier (bound : Nat) :
    CompleteReader bound [] DerivesIdentifier identifier := by
  intro text rest name tokens rule short reads quiet
  cases rule
  exact identifier_eq_ok_iff.mpr reads

theorem expect_eq_ok {spelling text rest : Text} (known : spelling ∈ symbols)
    (reads : Reads text [.symbol spelling] rest) : expect spelling text = .ok rest := by
  simp [expect, (token?_eq_some_iff known).mpr reads]

theorem completeReader_separated {Item : Type} {Rule : Item → List Token → Prop}
    {read : Text → Except Refusal (Item × Text)} {separator : Text} {ends : List Text}
    {bound : Nat} (fuel : Nat) (known : separator ∈ symbols)
    (differs : ∀ spelling ∈ ends, spelling ≠ [] ∧ spelling.head? ≠ separator.head?)
    (complete : CompleteReader bound ends Rule read) (enough : bound < fuel) :
    CompleteReader bound (separator :: ends) (Separated separator Rule)
      (separated separator read fuel) := by
  intro text rest items tokens rule short reads quiet
  have quietEnds : Quiet ends rest := quiet.mono (List.subset_cons_self separator ends)
  have fueled : tokens.length < fuel := by omega
  clear enough
  induction rule generalizing text fuel with
  | @last item tokens rule =>
    cases fuel with
    | zero => omega
    | succ fuel =>
      have itemRead := complete rule short reads quietEnds
      have ended := quiet separator List.mem_cons_self
      simp [separated, itemRead, ended, bind, Except.bind, pure, Except.pure]
  | @more item items tokens others rule rules ih =>
    simp only [List.length_append, List.length_cons] at short fueled
    rcases reads.exists_of_append with ⟨middle, readsItem, readsRest⟩
    rcases readsRest.exists_of_cons with ⟨behind, readsSeparator, readsOthers⟩
    have quietMiddle : Quiet ends middle := by
      intro spelling member
      rcases differs spelling member with ⟨nonempty, first⟩
      exact token?_eq_none_of_reads readsRest nonempty first
    cases fuel with
    | zero => omega
    | succ fuel =>
      have itemRead := complete rule (by omega) readsItem quietMiddle
      have passed := (token?_eq_some_iff known).mpr readsSeparator
      have othersRead := ih fuel (by omega) readsOthers (by omega)
      simp [separated, itemRead, passed, othersRead, bind, Except.bind, pure, Except.pure]

theorem dimensions_eq {count : Nat} {text rest : Text} (fuel : Nat)
    (reads : Reads text (List.replicate count (.symbol "[]")) rest) (enough : count ≤ fuel)
    (ended : token? "[]" rest = none) : dimensions fuel text = (count, rest) := by
  induction count generalizing text fuel with
  | zero =>
    cases reads
    cases fuel with
    | zero => rfl
    | succ fuel => rw [dimensions, ended]
  | succ count ih =>
    rcases (List.replicate_succ ▸ reads).exists_of_cons with ⟨middle, first, others⟩
    cases fuel with
    | zero => omega
    | succ fuel =>
      have passed := (token?_eq_some_iff (by decide)).mpr first
      have othersRead := ih fuel others (by omega)
      simp only [dimensions, passed, othersRead]

/-- The terminals of array brackets keep a text quiet about everything but array brackets. -/
theorem Quiet.of_reads_dimensions {spellings : List Text} {count : Nat} {text rest : Text}
    (quiet : Quiet spellings rest)
    (reads : Reads text (List.replicate count (.symbol "[]")) rest)
    (differs : ∀ spelling ∈ spellings, spelling ≠ [] ∧ spelling.head? ≠ some '[') :
    Quiet spellings text := by
  apply quiet.of_reads reads
  intro token head
  have same : token = .symbol "[]" :=
    List.eq_of_mem_replicate (List.mem_of_mem_head? head)
  subst same
  exact differs

/-- An identifier keeps a text quiet about everything that does not begin like one. -/
theorem token?_eq_none_of_reads_identifier {spelling text name rest : Text} {tokens : List Token}
    (reads : Reads text (.identifier name :: tokens) rest) (nonempty : spelling ≠ [])
    (differs : spelling.head?.any isIdentifierStart = false) :
    token? spelling text = none := by
  apply token?_eq_none_of_reads reads nonempty
  intro same
  rcases reads.exists_of_cons with ⟨middle, first, -⟩
  rcases first.of_singleton with ⟨-, whole, -⟩
  cases name with
  | nil => simp [isIdentifier] at whole
  | cons character others =>
    simp only [isIdentifier, Bool.and_eq_true] at whole
    rw [Option.mem_def.mp same, Option.any_some, whole.1] at differs
    contradiction

theorem exists_identifier_of_derivesSegment {segment : TypeSegment} {tokens : List Token}
    (rule : DerivesSegment segment tokens) :
    ∃ name others, tokens = .identifier name :: others := by
  cases rule with
  | plain name => exact ⟨name, [], rfl⟩
  | generic name rule => exact ⟨name, _, rfl⟩

theorem exists_identifier_of_derivesType {type : TypeReference} {tokens : List Token}
    (rule : DerivesType type tokens) : ∃ name others, tokens = .identifier name :: others := by
  cases rule with
  | mk count rule =>
    cases rule with
    | last rule =>
      rcases exists_identifier_of_derivesSegment rule with ⟨name, others, rfl⟩
      exact ⟨name, _, rfl⟩
    | more rule rules =>
      rcases exists_identifier_of_derivesSegment rule with ⟨name, others, rfl⟩
      exact ⟨name, _, rfl⟩

theorem completeReader_typeReference_succ {bound fuel : Nat} (enough : bound + 1 ≤ fuel)
    (completeSegment : CompleteReader bound ["<"] DerivesSegment (typeSegment fuel)) :
    CompleteReader bound typeEnds DerivesType (typeReference (fuel + 1)) := by
  intro text rest type tokens rule short reads quiet
  cases rule with
  | @mk segments tokens count rule =>
    simp only [List.length_append, List.length_replicate] at short
    rcases reads.exists_of_append with ⟨middle, readsSegments, readsDimensions⟩
    have quietMiddle : Quiet [".", "<"] middle :=
      (quiet.mono (by decide)).of_reads_dimensions readsDimensions (by decide)
    have segmentsRead := completeReader_separated fuel (by decide) (by decide) completeSegment
      (by omega) rule (by omega) readsSegments quietMiddle
    have dimensionsRead := dimensions_eq fuel readsDimensions (by omega) (quiet "[]" (by decide))
    simp only [typeReference, segmentsRead, dimensionsRead, bind, Except.bind, pure, Except.pure]

theorem completeReader_typeSegment_succ {bound fuel : Nat} (enough : bound ≤ fuel)
    (completeArgument : ∀ inner, inner + 3 ≤ fuel →
      CompleteReader inner argumentEnds DerivesArgument (typeArgument fuel)) :
    CompleteReader bound ["<"] DerivesSegment (typeSegment (fuel + 1)) := by
  intro text rest segment tokens rule short reads quiet
  cases rule with
  | plain name =>
    have nameRead := identifier_eq_ok_iff.mpr reads
    have ended := quiet "<" (by decide)
    simp only [typeSegment, nameRead, ended, bind, Except.bind, pure, Except.pure]
  | @generic name arguments tokens rule =>
    simp only [List.length_cons, List.length_append, List.length_nil] at short
    rcases reads.exists_of_cons with ⟨behind, readsName, reads⟩
    rcases reads.exists_of_cons with ⟨inside, readsOpening, reads⟩
    rcases reads.exists_of_append with ⟨closing, readsArguments, readsClosing⟩
    have nameRead := identifier_eq_ok_iff.mpr readsName
    have opened := (token?_eq_some_iff (by decide)).mpr readsOpening
    have quietClosing : Quiet ("," :: argumentEnds) closing := by
      intro spelling member
      apply token?_eq_none_of_reads readsClosing
      · revert spelling
        decide
      · revert spelling
        decide
    have argumentsRead := completeReader_separated fuel (by decide) (by decide)
      (completeArgument (bound - 3) (by omega)) (by omega) rule (by omega)
      readsArguments quietClosing
    have closed := expect_eq_ok (by decide) readsClosing
    simp only [typeSegment, nameRead, opened, argumentsRead, closed, bind, Except.bind, pure,
      Except.pure]

theorem completeReader_typeArgument_succ {bound fuel : Nat}
    (completeType : CompleteReader bound typeEnds DerivesType (typeReference fuel)) :
    CompleteReader bound argumentEnds DerivesArgument (typeArgument (fuel + 1)) := by
  intro text rest argument tokens rule short reads quiet
  unfold typeArgument
  cases rule with
  | exactly rule =>
    rcases exists_identifier_of_derivesType rule with ⟨name, others, rfl⟩
    have unmarked : token? "?" text = none :=
      token?_eq_none_of_reads_identifier reads (by decide) (by decide)
    have typeRead := completeType rule (by omega) reads (quiet.mono (by decide))
    rw [unmarked, typeRead]
    rfl
  | unbounded =>
    have marked := (token?_eq_some_iff (by decide)).mpr reads
    have unextended := quiet "extends" (by decide)
    have unsuper := quiet "super" (by decide)
    rw [marked]
    dsimp only
    rw [unextended]
    dsimp only
    rw [unsuper]
    rfl
  | extending rule =>
    simp only [List.length_cons] at short
    rcases reads.exists_of_cons with ⟨behind, readsMark, reads⟩
    rcases reads.exists_of_cons with ⟨inner, readsKeyword, reads⟩
    have marked := (token?_eq_some_iff (by decide)).mpr readsMark
    have extended := (token?_eq_some_iff (by decide)).mpr readsKeyword
    have boundRead := completeType rule (by omega) reads (quiet.mono (by decide))
    rw [marked]
    dsimp only
    rw [extended]
    dsimp only
    rw [boundRead]
    rfl
  | above rule =>
    simp only [List.length_cons] at short
    rcases reads.exists_of_cons with ⟨behind, readsMark, reads⟩
    rcases reads.exists_of_cons with ⟨inner, readsKeyword, reads'⟩
    have marked := (token?_eq_some_iff (by decide)).mpr readsMark
    have unextended : token? "extends" behind = none :=
      token?_eq_none_of_reads reads (by decide) (by decide)
    have raised := (token?_eq_some_iff (by decide)).mpr readsKeyword
    have boundRead := completeType rule (by omega) reads' (quiet.mono (by decide))
    rw [marked]
    dsimp only
    rw [unextended]
    dsimp only
    rw [raised]
    dsimp only
    rw [boundRead]
    rfl

/-- The readers of types are complete once the fuel exceeds the number of terminals. -/
theorem completeReader_types (fuel : Nat) :
    (∀ bound, bound + 2 ≤ fuel →
      CompleteReader bound typeEnds DerivesType (typeReference fuel)) ∧
    (∀ bound, bound + 1 ≤ fuel →
      CompleteReader bound ["<"] DerivesSegment (typeSegment fuel)) ∧
    (∀ bound, bound + 3 ≤ fuel →
      CompleteReader bound argumentEnds DerivesArgument (typeArgument fuel)) := by
  induction fuel with
  | zero =>
    refine ⟨?_, ?_, ?_⟩
    · intro bound enough
      omega
    · intro bound enough
      omega
    · intro bound enough
      omega
  | succ fuel ih =>
    rcases ih with ⟨completeType, completeSegment, completeArgument⟩
    refine ⟨?_, ?_, ?_⟩
    · intro bound enough
      exact completeReader_typeReference_succ (by omega) (completeSegment bound (by omega))
    · intro bound enough
      exact completeReader_typeSegment_succ (by omega) completeArgument
    · intro bound enough
      exact completeReader_typeArgument_succ (completeType bound (by omega))

theorem completeReader_typeReference {bound fuel : Nat} (enough : bound + 2 ≤ fuel) :
    CompleteReader bound typeEnds DerivesType (typeReference fuel) :=
  (completeReader_types fuel).1 bound enough

theorem completeReader_typeParameter {bound fuel : Nat} (enough : bound + 2 ≤ fuel) :
    CompleteReader bound ("extends" :: "&" :: typeEnds) DerivesParameter (typeParameter fuel) := by
  intro text rest parameter tokens rule short reads quiet
  unfold typeParameter
  cases rule with
  | unbounded name =>
    have nameRead := identifier_eq_ok_iff.mpr reads
    have ended := quiet "extends" (by decide)
    rw [nameRead]
    simp only [bind, Except.bind]
    rw [ended]
    rfl
  | bounded name rule =>
    simp only [List.length_cons] at short
    rcases reads.exists_of_cons with ⟨behind, readsName, reads⟩
    rcases reads.exists_of_cons with ⟨inner, readsKeyword, reads⟩
    have nameRead := identifier_eq_ok_iff.mpr readsName
    have extended := (token?_eq_some_iff (by decide)).mpr readsKeyword
    have boundsRead := completeReader_separated fuel (by decide) (by decide)
      (completeReader_typeReference enough) (by omega) rule (by omega) reads
      (quiet.mono (by decide))
    rw [nameRead]
    simp only [bind, Except.bind]
    rw [extended]
    simp only [boundsRead]
    rfl

theorem completeReader_typeParametersAt {bound : Nat} (fuel : Nat) (enough : bound + 2 ≤ fuel) :
    CompleteReader bound ["<"] DerivesParameters (typeParametersAt fuel) := by
  intro text rest parameters tokens rule short reads quiet
  unfold typeParametersAt
  cases rule with
  | none =>
    cases reads
    rw [quiet "<" (by decide)]
  | some rule =>
    simp only [List.length_cons, List.length_append, List.length_nil] at short
    rcases reads.exists_of_cons with ⟨inside, readsOpening, reads⟩
    rcases reads.exists_of_append with ⟨closing, readsParameters, readsClosing⟩
    have opened := (token?_eq_some_iff (by decide)).mpr readsOpening
    have quietClosing : Quiet ("," :: "extends" :: "&" :: typeEnds) closing := by
      intro spelling member
      apply token?_eq_none_of_reads readsClosing
      · revert spelling
        decide
      · revert spelling
        decide
    have parametersRead := completeReader_separated fuel (by decide) (by decide)
      (completeReader_typeParameter enough) (by omega) rule (by omega)
      readsParameters quietClosing
    have closed := expect_eq_ok (by decide) readsClosing
    rw [opened]
    simp only [bind, Except.bind, parametersRead, closed]
    rfl

theorem completeReader_clauseAt {keyword : Text} {bound : Nat} (fuel : Nat)
    (known : keyword ∈ symbols) (enough : bound + 2 ≤ fuel) :
    CompleteReader bound (keyword :: "," :: typeEnds) (DerivesClause keyword)
      (clauseAt keyword fuel) := by
  intro text rest types tokens rule short reads quiet
  unfold clauseAt
  cases rule with
  | none =>
    cases reads
    rw [quiet keyword List.mem_cons_self]
  | some rule =>
    simp only [List.length_cons] at short
    rcases reads.exists_of_cons with ⟨behind, readsKeyword, reads⟩
    have typesRead := completeReader_separated fuel (by decide) (by decide)
      (completeReader_typeReference enough) (by omega) rule (by omega) reads
      (quiet.mono (List.subset_cons_self _ _))
    rw [(token?_eq_some_iff known).mpr readsKeyword]
    exact typesRead

theorem findSome?_eq_of_unique {Item Result : Type} {search : Item → Option Result}
    {items : List Item} {item : Item} {result : Result} (member : item ∈ items)
    (found : search item = some result)
    (unique : ∀ other ∈ items, ∀ wrong, search other = some wrong → other = item) :
    items.findSome? search = some result := by
  cases first : items.findSome? search with
  | none => simp [List.findSome?_eq_none_iff.mp first item member] at found
  | some wrong =>
    rcases List.exists_of_findSome?_eq_some first with ⟨other, known, same⟩
    rw [unique other known wrong same, found] at same
    exact same.symm

/-- Of two fixed words that stand at one place, one begins the other. -/
theorem prefix_or_prefix_of_token? {left right text behind rest : Text}
    (first : token? left text = some behind) (second : token? right text = some rest) :
    left <+: right ∨ right <+: left := by
  have leftStands := Text.eq_append_of_after? first
  have rightStands := Text.eq_append_of_after? second
  exact List.prefix_or_prefix_of_prefix ⟨behind, leftStands.symm⟩ ⟨rest, rightStands.symm⟩

/-- No modifier begins another one, so at most one stands at a place. -/
theorem eq_of_prefix_modifier : ∀ left ∈ declarationModifiers, ∀ right ∈ declarationModifiers,
    left <+: right → left = right := by
  decide

theorem eq_of_prefix_keyword (left right : ClassKind) (starts : left.keyword <+: right.keyword) :
    left = right := by
  revert starts
  cases left <;> cases right <;> decide

theorem mem_all (declared : ClassKind) : declared ∈ ClassKind.all := by
  cases declared <;> decide

theorem anyWord?_eq_some {text word rest : Text} (reads : Reads text [.modifier word] rest) :
    anyWord? declarationModifiers text = some (word, rest) := by
  rcases reads.of_singleton with ⟨stands, known⟩
  have passed : token? word text = some rest := Text.after?_eq_some_iff.mpr stands
  apply findSome?_eq_of_unique known
  · rw [passed]
    rfl
  · intro other otherKnown wrong found
    rcases Option.map_eq_some_iff.mp found with ⟨behind, otherPassed, -⟩
    rcases prefix_or_prefix_of_token? otherPassed passed with starts | starts
    · exact eq_of_prefix_modifier other otherKnown word known starts
    · exact (eq_of_prefix_modifier word known other otherKnown starts).symm

theorem anyWord?_eq_none {text rest : Text} {declared : ClassKind} {tokens : List Token}
    (reads : Reads text (.kind declared :: tokens) rest) :
    anyWord? declarationModifiers text = none := by
  apply List.findSome?_eq_none_iff.mpr
  intro word known
  have refused : token? word text = none := by
    apply token?_eq_none_of_reads reads
    · revert word
      decide
    · revert word
      cases declared <;> decide
  rw [refused]
  rfl

theorem writtenModifiersAt_eq {text rest : Text} {words : List Text} (fuel : Nat)
    (reads : Reads text (words.map .modifier) rest) (enough : words.length ≤ fuel)
    (ended : anyWord? declarationModifiers rest = none) :
    writtenModifiersAt fuel text = (words, rest) := by
  induction words generalizing text fuel with
  | nil =>
    cases reads
    cases fuel with
    | zero => rfl
    | succ fuel => rw [writtenModifiersAt, ended]
  | cons word words ih =>
    rcases Reads.exists_of_cons reads with ⟨middle, first, others⟩
    simp only [List.length_cons] at enough
    cases fuel with
    | zero => omega
    | succ fuel =>
      have othersRead := ih fuel others (by omega)
      simp only [writtenModifiersAt, anyWord?_eq_some first, othersRead]

theorem kindAt_eq_ok {text rest : Text} {declared : ClassKind}
    (reads : Reads text [.kind declared] rest) : kindAt text = .ok (declared, rest) := by
  have passed : token? declared.keyword text = some rest :=
    Text.after?_eq_some_iff.mpr reads.of_singleton.1
  have found : (ClassKind.all.findSome? fun kind =>
      (token? kind.keyword text).map (kind, ·)) = some (declared, rest) := by
    apply findSome?_eq_of_unique (mem_all declared)
    · rw [passed]
      rfl
    · intro other known wrong otherFound
      rcases Option.map_eq_some_iff.mp otherFound with ⟨behind, otherPassed, -⟩
      rcases prefix_or_prefix_of_token? otherPassed passed with starts | starts
      · exact eq_of_prefix_keyword other declared starts
      · exact (eq_of_prefix_keyword declared other starts).symm
  rw [kindAt, found]

/-- A clause begins with its keyword, if with anything. -/
theorem Quiet.of_reads_clause {spellings : List Text} {keyword text rest : Text}
    {types : List TypeReference} {tokens : List Token} (quiet : Quiet spellings rest)
    (rule : DerivesClause keyword types tokens) (reads : Reads text tokens rest)
    (differs : ∀ spelling ∈ spellings, spelling ≠ [] ∧ spelling.head? ≠ keyword.head?) :
    Quiet spellings text := by
  apply quiet.of_reads reads
  cases rule with
  | none => simp
  | some rule =>
    intro token head
    cases head
    exact differs

theorem Quiet.of_reads_parameters {spellings : List Text} {text rest : Text}
    {parameters : List TypeParameter} {tokens : List Token} (quiet : Quiet spellings rest)
    (rule : DerivesParameters parameters tokens) (reads : Reads text tokens rest)
    (differs : ∀ spelling ∈ spellings, spelling ≠ [] ∧ spelling.head? ≠ some '<') :
    Quiet spellings text := by
  apply quiet.of_reads reads
  cases rule with
  | none => simp
  | some rule =>
    intro token head
    cases head
    exact differs

theorem Quiet.of_reads_brace {spellings : List Text} {text rest : Text} {brace : Bool}
    (quiet : Quiet spellings rest) (reads : Reads text (braceTokens brace) rest)
    (differs : ∀ spelling ∈ spellings, spelling ≠ [] ∧ spelling.head? ≠ some '\x7b') :
    Quiet spellings text := by
  apply quiet.of_reads reads
  cases brace with
  | false => simp [braceTokens]
  | true =>
    intro token head
    cases head
    exact differs

theorem skipSpace_of_reads_brace {text rest : Text} {brace : Bool}
    (reads : Reads text (braceTokens brace) rest) (blank : rest.all isSpace = true) :
    skipSpace ((token? ['\x7b'] text).getD text) = [] := by
  have nothing : skipSpace rest = [] := by
    simpa [skipSpace] using skipSpace_append [] blank
  cases brace with
  | false =>
    cases reads
    rw [token?_eq_none_of_blank blank (by decide)]
    exact nothing
  | true =>
    rw [(token?_eq_some_iff (by decide)).mpr reads]
    exact nothing

/-- What the grammar derives from the terminals of a line is read from the line. -/
theorem parseWith_eq_ok {fuel : Nat} {text : Text} {declaration : Declaration} {brace : Bool}
    {tokens : List Token} (rule : Derives declaration brace tokens) (cut : Cut text tokens)
    (enough : tokens.length + 2 ≤ fuel) : parseWith fuel text = .ok declaration := by
  rcases cut with ⟨blanks, blank, reads⟩
  rcases rule with ⟨path, typeParameters, extended, implemented, permitted⟩
  simp only [List.length_append, List.length_cons, List.length_map] at enough
  rcases reads.exists_of_append with ⟨behindModifiers, readsModifiers, reads⟩
  have noModifier := anyWord?_eq_none reads
  rcases reads.exists_of_cons with ⟨behindKind, readsKind, reads⟩
  rcases reads.exists_of_append with ⟨behindPath, readsPath, reads⟩
  rcases reads.exists_of_append with ⟨behindParameters, readsParameters, reads⟩
  rcases reads.exists_of_append with ⟨behindExtended, readsExtended, reads⟩
  rcases reads.exists_of_append with ⟨behindImplemented, readsImplemented, reads⟩
  rcases reads.exists_of_append with ⟨behindPermitted, readsPermitted, readsBrace⟩
  -- What may come next, from the last clause back to the name.
  have quietBlanks : Quiet ("permits" :: "implements" :: "extends" :: "," :: typeEnds) blanks :=
    quiet_of_blank blank (by decide)
  have quietPermitted := quietBlanks.of_reads_brace readsBrace (by decide)
  have quietImplemented : Quiet ("implements" :: "extends" :: "," :: typeEnds) behindImplemented :=
    (quietPermitted.mono (List.subset_cons_self _ _)).of_reads_clause permitted readsPermitted
      (by decide)
  have quietExtended : Quiet ("extends" :: "," :: typeEnds) behindExtended :=
    (quietImplemented.mono (List.subset_cons_self _ _)).of_reads_clause implemented
      readsImplemented (by decide)
  have quietParameters : Quiet ("," :: typeEnds) behindParameters :=
    (quietExtended.mono (List.subset_cons_self _ _)).of_reads_clause extended readsExtended
      (by decide)
  have quietPath : Quiet ["."] behindPath :=
    (quietParameters.mono (by decide)).of_reads_parameters typeParameters readsParameters
      (by decide)
  -- The readers, from left to right.
  have modifiersRead := writtenModifiersAt_eq fuel readsModifiers (by omega) noModifier
  have kindRead := kindAt_eq_ok readsKind
  have pathRead := completeReader_separated fuel (by decide) (by decide)
    (completeReader_identifier (fuel - 1)) (by omega) path (by omega) readsPath
    quietPath
  have parametersRead := completeReader_typeParametersAt fuel enough
    typeParameters (by omega) readsParameters (quietParameters.mono (by decide))
  have extendedRead := completeReader_clauseAt fuel (by decide) enough extended
    (by omega) readsExtended quietExtended
  have implementedRead := completeReader_clauseAt fuel (by decide) enough
    implemented (by omega) readsImplemented (quietImplemented.mono (by decide))
  have permittedRead := completeReader_clauseAt fuel (by decide) enough
    permitted (by omega) readsPermitted (quietPermitted.mono (by decide))
  have finished := skipSpace_of_reads_brace readsBrace blank
  simp only [parseWith, modifiersRead, kindRead, pathRead, parametersRead, extendedRead,
    implementedRead, permittedRead, finished, bind, Except.bind, pure, Except.pure,
    List.isEmpty_nil, if_true]

end JarAtlas.Declaration
