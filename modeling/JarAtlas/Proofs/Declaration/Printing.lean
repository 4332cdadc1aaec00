import JarAtlas.Proofs.Declaration.Exactness
import JarAtlas.Proofs.Text.Cuts

/-!
# Printing declarations

A declaration has a line of its own: its parts in order, with one space between words and the texts
of its types as they are. The line is cut into the terminals of the declaration, so reading it gives
the declaration back.
-/

namespace JarAtlas

/-- The types of a clause behind its keyword; nothing when there are none. -/
def clauseText (keyword : Text) (types : List TypeReference) : Text :=
  if types.isEmpty then []
  else ' ' :: keyword ++ ' ' :: Text.join ", " (types.map TypeReference.text)

namespace Declaration

/-- The line of a declaration. -/
def line (declaration : Declaration) : Text :=
  Text.spaced declaration.writtenModifiers ++
    (declaration.kind.keyword ++ ' ' :: (declaration.qualifiedName ++
      (declaration.typeParametersText ++ (clauseText "extends" declaration.extended ++
        (clauseText "implements" declaration.implemented ++
          clauseText "permits" declaration.permitted)))))

/-- No identifier goes on at the start of the text. -/
def Ends (text : Text) : Prop := ∀ character ∈ text.head?, isIdentifierPart character = false

/-- Terminals at the start of a text, with blanks around them, and the text behind. -/
def Covers (text : Text) (tokens : List Token) (rest : Text) : Prop :=
  ∃ blanks, blanks.all isSpace = true ∧ Reads text tokens (blanks ++ rest)

/-- Every identifier among the terminals is one. -/
def NamesFit (tokens : List Token) : Prop :=
  ∀ name, Token.identifier name ∈ tokens → isIdentifier name = true

/-- The text that shows the terminals is cut into them, whatever ends it. -/
def IsShown (tokens : List Token) : Prop :=
  NamesFit tokens → ∀ rest, Ends rest → Covers (shownText tokens ++ rest) tokens rest

theorem ends_nil : Ends [] := by simp [Ends]

theorem Ends.cons {character : Char} (rest : Text) (ends : isIdentifierPart character = false) :
    Ends (character :: rest) := by
  intro first head
  cases head
  exact ends

theorem Reads.blanks_append {blanks text rest : Text} {token : Token} {tokens : List Token}
    (blank : blanks.all isSpace = true) (reads : Reads text (token :: tokens) rest) :
    Reads (blanks ++ text) (token :: tokens) rest := by
  cases reads with
  | cons inner fits others =>
    rw [← List.append_assoc, ← List.append_assoc]
    exact .cons (by rw [List.all_append, blank, inner]; rfl) fits others

namespace Covers

theorem nil (rest : Text) : Covers rest [] rest := ⟨[], rfl, .nil rest⟩

theorem append {text middle rest : Text} {left right : List Token}
    (first : Covers text left middle) (second : Covers middle right rest) :
    Covers text (left ++ right) rest := by
  rcases first with ⟨blanks, blank, reads⟩
  rcases second with ⟨others, blankOthers, readsOthers⟩
  cases right with
  | nil =>
    cases readsOthers
    refine ⟨blanks ++ others, by rw [List.all_append, blank, blankOthers]; rfl, ?_⟩
    simpa using reads
  | cons token right => exact ⟨others, blankOthers, reads.append (readsOthers.blanks_append blank)⟩

theorem token {front spelling back rest : Text} {token : Token}
    (spelled : token.spelling = spelling) (blankFront : front.all isSpace = true)
    (blankBack : back.all isSpace = true) (fits : token.Fits (back ++ rest)) :
    Covers (front ++ spelling ++ (back ++ rest)) [token] rest :=
  ⟨back, blankBack, spelled ▸ .cons blankFront fits (.nil _)⟩

theorem identifier {name rest : Text} (whole : isIdentifier name = true) (ends : Ends rest) :
    Covers (name ++ rest) [.identifier name] rest := by
  have covered : Covers ([] ++ name ++ ([] ++ rest)) [.identifier name] rest :=
    token rfl rfl rfl ⟨whole, ends⟩
  exact covered

theorem kind (declared : ClassKind) (rest : Text) :
    Covers (declared.keyword ++ ' ' :: rest) [.kind declared] rest := by
  have covered : Covers ([] ++ declared.keyword ++ ([' '] ++ rest)) [.kind declared] rest :=
    token rfl rfl (by decide) trivial
  exact covered

/-- A fixed terminal is cut from the text that shows it. -/
theorem symbol {spelling : Text} (rest : Text) (known : spelling ∈ symbols) :
    Covers ((Token.symbol spelling).shown ++ rest) [.symbol spelling] rest := by
  have fits : ∀ behind, (Token.symbol spelling).Fits behind := fun _ => known
  by_cases comma : spelling = ","
  · have spaced : Covers ([] ++ spelling ++ ([' '] ++ rest)) [.symbol spelling] rest :=
      token rfl rfl (by decide) (fits _)
    subst comma
    exact spaced
  · by_cases word : spelling ∈ (["&", "extends", "super"] : List Text)
    · have spaced : Covers ([' '] ++ spelling ++ ([' '] ++ rest)) [.symbol spelling] rest :=
        token rfl (by decide) (by decide) (fits _)
      rw [Token.shown, if_neg comma, if_pos word]
      simpa using spaced
    · have plain : Covers ([] ++ spelling ++ ([] ++ rest)) [.symbol spelling] rest :=
        token rfl rfl rfl (fits _)
      rw [Token.shown, if_neg comma, if_neg word]
      exact plain

end Covers

theorem NamesFit.left {left right : List Token} (fit : NamesFit (left ++ right)) : NamesFit left :=
  fun name member => fit name (List.mem_append_left _ member)

theorem NamesFit.right {left right : List Token} (fit : NamesFit (left ++ right)) :
    NamesFit right := fun name member => fit name (List.mem_append_right _ member)

theorem NamesFit.tail {token : Token} {tokens : List Token} (fit : NamesFit (token :: tokens)) :
    NamesFit tokens := fun name member => fit name (List.mem_cons_of_mem _ member)

/-- The text that shows a fixed terminal ends an identifier in front of it. -/
def SetsOff (spelling : Text) : Prop :=
  spelling ∈ symbols ∧ ∀ rest, Ends ((Token.symbol spelling).shown ++ rest)

theorem setsOff_of_head {spelling : Text} (known : spelling ∈ symbols)
    (ends : (Token.symbol spelling).shown.head?.map isIdentifierPart = some false) :
    SetsOff spelling := by
  refine ⟨known, ?_⟩
  intro rest
  rcases Option.map_eq_some_iff.mp ends with ⟨first, head, stops⟩
  rcases List.head?_eq_some_iff.mp head with ⟨others, shown⟩
  rw [shown, List.cons_append]
  exact .cons _ stops

/-- A fixed terminal between shown ones. -/
theorem IsShown.append_symbol {left right : List Token} {spelling : Text} (first : IsShown left)
    (setsOff : SetsOff spelling) (second : IsShown right) :
    IsShown (left ++ .symbol spelling :: right) := by
  intro fit rest ends
  have covered := (first fit.left _ (setsOff.2 (shownText right ++ rest))).append
    ((Covers.symbol (shownText right ++ rest) setsOff.1).append (second fit.right.tail rest ends))
  simpa using covered

theorem isShown_identifier (name : Text) : IsShown [.identifier name] := by
  intro fit rest ends
  rw [shownText_cons, shownText_nil, List.append_nil]
  exact .identifier (fit name List.mem_cons_self) ends

theorem isShown_symbol {spelling : Text} (known : spelling ∈ symbols) :
    IsShown [.symbol spelling] := by
  intro fit rest ends
  rw [shownText_cons, shownText_nil, List.append_nil]
  exact .symbol rest known

theorem isShown_nil : IsShown [] := fun _ rest _ => .nil rest

/-- Shown terminals in angle brackets behind a name. -/
theorem IsShown.bracketed {left tokens : List Token} (first : IsShown left)
    (second : IsShown tokens) :
    IsShown (left ++ .symbol "<" :: (tokens ++ [.symbol ">"])) :=
  first.append_symbol (setsOff_of_head (by decide) (by decide))
    (second.append_symbol (setsOff_of_head (by decide) (by decide)) isShown_nil)

theorem isShown_replicate {tokens : List Token} (first : IsShown tokens) (count : Nat) :
    IsShown (tokens ++ List.replicate count (.symbol "[]")) := by
  induction count generalizing tokens with
  | zero => simpa using first
  | succ count ih =>
    have more := ih (first.append_symbol
      (setsOff_of_head (by decide) (by decide) : SetsOff "[]") isShown_nil)
    simpa [List.replicate_succ] using more

theorem Separated.isShown {Item : Type} {separator : Text} {items : List Item}
    {tokens : List Token}
    (rules : Separated separator (fun _ tokens => IsShown tokens) items tokens)
    (setsOff : SetsOff separator) : IsShown tokens := by
  induction rules with
  | last rule => exact rule
  | more rule rules ih => exact rule.append_symbol setsOff ih

theorem setsOff_comma : SetsOff "," := setsOff_of_head (by decide) (by decide)

theorem setsOff_dot : SetsOff "." := setsOff_of_head (by decide) (by decide)

/-- The text of a type is cut into its terminals. -/
theorem DerivesType.isShown {reference : TypeReference} {tokens : List Token}
    (rule : DerivesType reference tokens) : IsShown tokens := by
  refine rule.induction (fun _ tokens => IsShown tokens) (fun _ tokens => IsShown tokens)
    (fun _ tokens => IsShown tokens) ?type ?plain ?generic ?exactly ?unbounded ?extending ?above
  case type =>
    intro segments tokens count rules
    exact isShown_replicate (rules.isShown setsOff_dot) count
  case plain => exact isShown_identifier
  case generic =>
    intro name arguments tokens rules
    exact (isShown_identifier name).bracketed (rules.isShown setsOff_comma)
  case exactly => exact id
  case unbounded => exact isShown_symbol (by decide)
  case extending =>
    intro bound tokens shown
    exact (isShown_symbol (by decide)).append_symbol
      (setsOff_of_head (by decide) (by decide) : SetsOff "extends") shown
  case above =>
    intro bound tokens shown
    exact (isShown_symbol (by decide)).append_symbol
      (setsOff_of_head (by decide) (by decide) : SetsOff "super") shown

theorem DerivesParameter.isShown {parameter : TypeParameter} {tokens : List Token}
    (rule : DerivesParameter parameter tokens) : IsShown tokens := by
  cases rule with
  | unbounded name => exact isShown_identifier name
  | bounded name rule =>
    have bounds := (rule.mono fun _ _ derived => derived.isShown).isShown
      (setsOff_of_head (by decide) (by decide))
    exact (isShown_identifier name).append_symbol
      (setsOff_of_head (by decide) (by decide) : SetsOff "extends") bounds

/-- A name with its type parameters. -/
theorem IsShown.append_parameters {left tokens : List Token} {parameters : List TypeParameter}
    (first : IsShown left) (rule : DerivesParameters parameters tokens) :
    IsShown (left ++ tokens) := by
  cases rule with
  | none => simpa using first
  | some rule =>
    exact first.bracketed ((rule.mono fun _ _ derived => derived.isShown).isShown setsOff_comma)

/-- A clause is cut into its keyword and the terminals of its types. -/
theorem DerivesClause.covers {keyword rest : Text} {types : List TypeReference}
    {tokens : List Token} (known : keyword ∈ symbols) (rule : DerivesClause keyword types tokens)
    (fit : NamesFit tokens) (ends : Ends rest) :
    Covers (clauseText keyword types ++ rest) tokens rest := by
  cases rule with
  | none => exact .nil rest
  | @some _ tokens rule =>
    have joined := rule.join_eq_shownText fun _ _ derived => text_eq_shownText derived
    rw [Token.shown_comma] at joined
    have shown := (rule.mono fun _ _ derived => derived.isShown).isShown setsOff_comma
    have word : Covers ([' '] ++ keyword ++ ([' '] ++ (shownText tokens ++ rest)))
        [.symbol keyword] (shownText tokens ++ rest) :=
      .token rfl (by decide) (by decide) (show (Token.symbol keyword).Fits _ from known)
    have nonempty : types.isEmpty = false := by
      simpa using rule.ne_nil
    rw [clauseText, if_neg (by simp [nonempty]), joined]
    have covered := word.append (shown fit.tail rest ends)
    simpa using covered

theorem ends_clauseText {keyword rest : Text} (types : List TypeReference) (ends : Ends rest) :
    Ends (clauseText keyword types ++ rest) := by
  unfold clauseText
  split
  · exact ends
  · exact .cons _ (by decide)

theorem covers_modifiers {words : List Text} (rest : Text)
    (known : ∀ word ∈ words, word ∈ declarationModifiers) :
    Covers (Text.spaced words ++ rest) (words.map .modifier) rest := by
  induction words with
  | nil => exact .nil rest
  | cons word words ih =>
    have fits : ∀ behind, (Token.modifier word).Fits behind :=
      fun _ => known word List.mem_cons_self
    have first : Covers ([] ++ word ++ ([' '] ++ (Text.spaced words ++ rest))) [.modifier word]
        (Text.spaced words ++ rest) :=
      .token rfl rfl (by decide) (fits _)
    have covered := first.append (ih fun word member => known word (List.mem_cons_of_mem _ member))
    simpa using covered

/-- The line of a declaration is cut into its terminals. -/
theorem Derives.covers {declaration : Declaration} {tokens : List Token}
    (rule : Derives declaration false tokens) (fit : NamesFit tokens)
    (known : ∀ word ∈ declaration.writtenModifiers, word ∈ declarationModifiers) :
    Covers declaration.line tokens [] := by
  cases rule with
  | @mk pathTokens parameterTokens extendsTokens implementsTokens permitsTokens path typeParameters
      extended implemented permitted =>
    have named : IsShown pathTokens := by
      refine Separated.isShown (path.mono ?_) setsOff_dot
      rintro name tokens ⟨⟩
      exact isShown_identifier _
    have fitParts := fit.right.tail
    have fitClauses := fitParts.right.right
    have fitName : NamesFit (pathTokens ++ parameterTokens) := by
      intro name member
      rcases List.mem_append.mp member with inPath | inParameters
      · exact fitParts.left name inPath
      · exact fitParts.right.left name inParameters
    have permits := permitted.covers (by decide) fitClauses.right.right.left ends_nil
    have endsPermits : Ends (clauseText "permits" declaration.permitted ++ []) :=
      ends_clauseText _ ends_nil
    have implements := implemented.covers (by decide) fitClauses.right.left endsPermits
    have endsImplements : Ends (clauseText "implements" declaration.implemented ++ _) :=
      ends_clauseText _ endsPermits
    have extends_ := extended.covers (by decide) fitClauses.left endsImplements
    have endsExtends : Ends (clauseText "extends" declaration.extended ++ _) :=
      ends_clauseText _ endsImplements
    have parameters := named.append_parameters typeParameters fitName _ endsExtends
    have covered := (covers_modifiers _ known).append ((Covers.kind declaration.kind _).append
      (parameters.append (extends_.append (implements.append permits))))
    rw [shownText_append, ← qualifiedName_eq_shownText path,
      ← typeParametersText_eq_shownText typeParameters] at covered
    simpa [line, braceTokens] using covered

/-- Reading the line of a declaration gives the declaration. -/
theorem parse_line {declaration : Declaration} {tokens : List Token}
    (rule : Derives declaration false tokens) (fit : NamesFit tokens)
    (known : ∀ word ∈ declaration.writtenModifiers, word ∈ declarationModifiers)
    (trimmed : Text.trim declaration.line = declaration.line) :
    parse declaration.line = .ok declaration := by
  rcases rule.covers fit known with ⟨blanks, blank, reads⟩
  refine parse_eq_ok_iff.mpr ⟨false, tokens, rule, blanks, blank, ?_⟩
  rw [trimmed]
  simpa using reads

/-- Class modifiers without repetitions are reported as they are written. -/
theorem modifiers_eq_writtenModifiers {declaration : Declaration}
    (known : ∀ word ∈ declaration.writtenModifiers, word ∈ classModifiers)
    (distinct : declaration.writtenModifiers.Nodup) :
    declaration.modifiers = declaration.writtenModifiers := by
  have kept : declaration.writtenModifiers.filter classModifiers.contains =
      declaration.writtenModifiers := by
    rw [List.filter_eq_self]
    simpa using known
  rw [modifiers_eq_eraseDups, kept, Text.eraseDups_of_nodup distinct]

/-! ### Well-formed trees -/

/-- The rule derives the tree, and its identifiers are identifiers. -/
def IsNamed {Tree : Type} (Rule : Tree → List Token → Prop) (tree : Tree) : Prop :=
  ∃ tokens, Rule tree tokens ∧ NamesFit tokens

theorem NamesFit.append_symbol {left right : List Token} (spelling : Text) (first : NamesFit left)
    (second : NamesFit right) : NamesFit (left ++ .symbol spelling :: right) := by
  intro name member
  simp only [List.mem_append, List.mem_cons, reduceCtorEq, false_or] at member
  rcases member with inLeft | inRight
  · exact first name inLeft
  · exact second name inRight

theorem namesFit_nil : NamesFit [] := fun _ member => absurd member List.not_mem_nil

theorem isNamed_separated {Tree : Type} {Rule : Tree → List Token → Prop} {trees : List Tree}
    (separator : Text) (nonempty : trees ≠ []) (each : ∀ tree ∈ trees, IsNamed Rule tree) :
    IsNamed (Separated separator Rule) trees := by
  induction trees with
  | nil => exact absurd rfl nonempty
  | cons tree trees ih =>
    rcases each tree List.mem_cons_self with ⟨tokens, rule, fit⟩
    by_cases last : trees = []
    · subst last
      exact ⟨tokens, .last rule, fit⟩
    · rcases ih last fun tree member => each tree (List.mem_cons_of_mem _ member)
        with ⟨others, rules, fitOthers⟩
      exact ⟨_, .more rule rules, fit.append_symbol separator fitOthers⟩

theorem isNamed_clause {types : List TypeReference} (keyword : Text)
    (each : ∀ type ∈ types, IsNamed DerivesType type) : IsNamed (DerivesClause keyword) types := by
  by_cases none : types = []
  · subst none
    exact ⟨[], .none, namesFit_nil⟩
  · rcases isNamed_separated "," none each with ⟨tokens, rule, fit⟩
    exact ⟨_, .some rule, namesFit_nil.append_symbol keyword fit⟩

theorem isNamed_parameters {parameters : List TypeParameter}
    (each : ∀ parameter ∈ parameters, IsNamed DerivesParameter parameter) :
    IsNamed DerivesParameters parameters := by
  by_cases none : parameters = []
  · subst none
    exact ⟨[], .none, namesFit_nil⟩
  · rcases isNamed_separated "," none each with ⟨tokens, rule, fit⟩
    exact ⟨_, .some rule, namesFit_nil.append_symbol "<" (fit.append_symbol ">" namesFit_nil)⟩

theorem isNamed_path {path : List Text} (nonempty : path ≠ [])
    (names : ∀ name ∈ path, isIdentifier name = true) :
    IsNamed (Separated "." DerivesIdentifier) path := by
  apply isNamed_separated "." nonempty
  intro name member
  refine ⟨_, .mk name, ?_⟩
  intro other isOther
  rw [List.mem_singleton, Token.identifier.injEq] at isOther
  rw [isOther]
  exact names name member

/-- A declaration is derived if its name and all its types are well formed. -/
theorem exists_derives {declaration : Declaration} (nonempty : declaration.path ≠ [])
    (names : ∀ name ∈ declaration.path, isIdentifier name = true)
    (parameters : ∀ parameter ∈ declaration.typeParameters, IsNamed DerivesParameter parameter)
    (types : ∀ type ∈ declaration.extended ++ declaration.implemented ++ declaration.permitted,
      IsNamed DerivesType type) :
    ∃ tokens, Derives declaration false tokens ∧ NamesFit tokens := by
  rcases isNamed_path nonempty names with ⟨pathTokens, path, fitPath⟩
  rcases isNamed_parameters parameters with ⟨parameterTokens, derivedParameters, fitParameters⟩
  rcases isNamed_clause "extends" (fun type (member : type ∈ declaration.extended) =>
    types type (by simp [member]))
    with ⟨extendsTokens, extended, fitExtends⟩
  rcases isNamed_clause "implements" (fun type (member : type ∈ declaration.implemented) =>
    types type (by simp [member]))
    with ⟨implementsTokens, implemented, fitImplements⟩
  rcases isNamed_clause "permits" (fun type (member : type ∈ declaration.permitted) =>
    types type (by simp [member]))
    with ⟨permitsTokens, permitted, fitPermits⟩
  refine ⟨_, .mk path derivedParameters extended implemented permitted, ?_⟩
  intro name member
  simp only [List.mem_append, List.mem_map, List.mem_cons, reduceCtorEq, and_false, exists_false,
    false_or, braceTokens, Bool.false_eq_true, if_false, List.not_mem_nil, or_false] at member
  rcases member with inPath | inParameters | inExtends | inImplements | inPermits
  · exact fitPath name inPath
  · exact fitParameters name inParameters
  · exact fitExtends name inExtends
  · exact fitImplements name inImplements
  · exact fitPermits name inPermits

end Declaration

end JarAtlas
